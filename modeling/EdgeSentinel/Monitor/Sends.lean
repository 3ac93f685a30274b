import EdgeSentinel.Monitor.NotificationLengths
import EdgeSentinel.Monitor.Rounds
import EdgeSentinel.Trace.Derived

/-!
# Changes of levels, and what is sent of them

`send_alert_change_notification` is called in five places, and decides each time anew whether the
notifier is to be called: notifications may be disabled, the level may not have changed, and the
event may not come about.

## The model

`delivery` is the purpose: a change is handed to the notifier if notifications are enabled and the
time can be found out, as an event with that time, for the command of the configuration in effect.

## What is proved

* `sendAlertChangeNotification_derives` — one call delivers its change.
* `gradeMemory_derives`, …, `iteration_derives` — so do the blocks of a round, and a turn.
* `sent_eq_deliveries` — **in a run**, what a turn sends is what is delivered of the changes that
  it has come across, in order and each once, with the configuration in effect; where the turn
  stops, too. The command is never empty.
-/

namespace EdgeSentinel.Monitor

open CLib Config Trace Trace.Traced

variable {ρ : Type} {format : OutputFormat} {config : AppConfig} {s s₁ s₀ : MainState}
  {its : List Iteration} {time : AlertMetric → ℤ}

/-- The change that an action is about. -/
def Action.change? : Action → Option AlertChange
  | .alertChanged change => some change
  | _ => none

/-- What an action hands to the notifier. -/
def Action.sent? : Action → Option (AlertEvent × Bytes)
  | .notifierSend event command => some (event, command)
  | _ => none

/-- The change that an event is about, and whose level it is. -/
def Event.change? (e : Event) : Option (Source × AlertChange) :=
  e.action.change?.map fun change => (e.source, change)

/-- What an event hands to the notifier, and for whom. -/
def Event.sent? (e : Event) : Option (Source × AlertEvent × Bytes) :=
  e.action.sent?.map fun sent => (e.source, sent)

/-- What is delivered of a change, where `time(NULL)` returns this for its metric. -/
def delivery (config : AppConfig) (time : AlertMetric → ℤ) (change : AlertChange) :
    Option (AlertEvent × Bytes) :=
  if config.notificationEnabled = 1 ∧ time change.metric ≠ -1 then
    some (⟨change, time change.metric⟩, config.notificationCommand.cstr)
  else none

/-- What `time(NULL)` returns for an alert about a process. -/
def ProcessCalls.alertTime (calls : ProcessCalls) : AlertMetric → ℤ
  | .processMemory => calls.memoryAlertTime
  | _ => calls.cpuAlertTime

/-- What it returns in a round. -/
def RoundCalls.alertTime (calls : RoundCalls) : Source → AlertMetric → ℤ
  | .process i, metric => (calls.processes i).alertTime metric
  | .system, .systemMemory => calls.memoryAlertTime
  | .system, .disk => calls.diskAlertTime
  | .system, _ => calls.cpuAlertTime

/-! ### Blocks -/

/-- What the blocks of a round have to do with changes of levels. -/
abbrev Delivers {α : Type} (config : AppConfig) (time : AlertMetric → ℤ)
    (x : Traced Action ρ α) : Prop :=
  x.Derives Action.change? Action.sent? (delivery config time)

/-- **A call** delivers its change, if it is one and its texts fit. -/
theorem sendAlertChangeNotification_derives (change : AlertChange) (hfits : change.Fits)
    (hchanged : change.previousLevel ≠ change.currentLevel) :
    Delivers (ρ := ρ) config time
      (sendAlertChangeNotification config (time change.metric) change) := by
  have hlength : ¬ (alertEventTargetLength ≤ change.target.length ∨
      alertEventUnitLength ≤ change.unit.length) := by
    have htarget := hfits.target
    have hunit := hfits.unit
    rw [alertEventUnitLength]
    omega
  unfold Delivers Derives sendAlertChangeNotification
  by_cases henabled : config.notificationEnabled = 1
  swap
  · simp [henabled, shown, Action.change?, Action.sent?, delivery]
  rw [if_neg (not_not.mpr henabled), if_neg hchanged, alertEventInit, if_neg hlength]
  by_cases htime : time change.metric = -1
  · simp [htime, shown, Action.change?, Action.sent?, delivery]
  · simp [htime, henabled, shown, Action.change?, Action.sent?, delivery]
    rfl

theorem writeLog_delivers {call : LogCall} {level message : Bytes} {written : Bool} {failure : ρ} :
    Delivers config time (writeLog config call level message written failure) :=
  .of_hidden (writeLog_emits rfl) (writeLog_emits rfl)

/-- A watched level delivers its change, if there is one. -/
theorem watchLevel_delivers {changed : AlertLevel → Traced Action ρ PUnit} {level : AlertLevel}
    (h : ∀ previous, previous ≠ level → Delivers config time (changed previous))
    (baseline : LevelBaseline) : Delivers config time (watchLevel baseline level changed) := by
  unfold watchLevel
  split_ifs with hinitialized hchanged
  · exact .bind (h _ (Ne.symm hchanged)) fun _ _ => .pure
  · exact .pure
  · exact .pure

section Process

variable {calls : ProcessCalls} {p : MonitoredProcess}

theorem gradeMemory_delivers (config : AppConfig) (calls : ProcessCalls) (p : MonitoredProcess) :
    Delivers config calls.alertTime (gradeMemory config calls p) := by
  refine .check_bind fun htarget => .emit_bind rfl rfl ?_
  refine .bind (watchLevel_delivers (fun previous hchanged => .check_bind fun _ => ?_) _)
    fun _ _ => .pure
  refine .bind writeLog_delivers fun _ _ => ?_
  refine sendAlertChangeNotification_derives ⟨.processMemory, _, _, _, _, _⟩
    ⟨htarget, (by decide : (ascii "MiB").length ≤ 3), _, rfl, ?_⟩ hchanged
  exact (abs_kilobytes_lt _).trans (by norm_num)

theorem compareCpuSamples_delivers (times : ProcessCpuTimes) (now : Timespec)
    (htarget : (notificationTarget p).length < alertEventTargetLength) :
    Delivers config calls.alertTime (compareCpuSamples config calls times now p) := by
  unfold compareCpuSamples
  split_ifs
  · refine .emit_bind rfl rfl ?_
    dsimp only
    split_ifs
    · refine .emit_bind rfl rfl ?_
      refine .bind (watchLevel_delivers (fun previous hchanged => .check_bind fun _ => ?_) _)
        fun _ _ => .pure
      refine .bind writeLog_delivers fun _ _ => ?_
      exact sendAlertChangeNotification_derives ⟨.processCpu, _, _, _, _, _⟩
        ⟨htarget, (by decide : (ascii "%").length ≤ 3), calculateProcessCpuUsage_eq _ _ _ _ _⟩
        hchanged
    · exact .pure
  · exact .pure

/-- **A process in a round** delivers the changes of its levels. -/
theorem monitorProcessOnce_delivers (config : AppConfig) (calls : ProcessCalls)
    (p : MonitoredProcess) :
    Delivers config calls.alertTime (monitorProcessOnce config calls p) := by
  have hlook : ∀ {δ : Type} {view : Action → Option δ}, (∀ pid, view (.found pid) = none) →
      (lookUpProcess calls p).Emits fun a => view a = none := fun h =>
    (lookUpProcess_emits calls p).mono fun _ ⟨pid, he⟩ => he ▸ h pid
  refine .bind (.of_hidden (hlook fun _ => rfl) (hlook fun _ => rfl)) fun p₁ _ => ?_
  refine .bind ?_ fun p₂ hp₂ => ?_
  · unfold readProcess
    split
    · exact .emit_bind rfl rfl .pure
    · exact .emit_bind rfl rfl (gradeMemory_delivers _ _ _)
  have htarget := length_notificationTarget_lt_of_available hp₂
  refine .bind ?_ fun p₃ _ => ?_
  · unfold monitorProcessCpu
    split_ifs with havailable
    · unfold sampleProcessCpu
      split
      · exact .emit_bind rfl rfl .pure
      · exact .orStop_bind fun now _ => .emit_bind rfl rfl
          (.bind (compareCpuSamples_delivers _ now (htarget havailable)) fun _ _ => .pure)
    · exact .pure
  · exact .bind (.of_hidden (watchAvailability_emits (fun _ _ _ => rfl) _ _ _)
      (watchAvailability_emits (fun _ _ _ => rfl) _ _ _)) fun _ _ => .emit_bind rfl rfl .pure

end Process

section System

variable {calls : RoundCalls}

theorem gradePercentage_delivers (metric : AlertMetric) {target : Bytes}
    {percent warning critical : Double} {baseline : LevelBaseline}
    (htarget : target.length < alertEventTargetLength)
    (hpercent : ∃ q, percent = .finite q ∧ |q| < (10 ^ 31 : ℕ)) :
    Delivers config time (gradePercentage config (time metric) metric target percent warning
      critical baseline) := by
  refine .emit_bind rfl rfl (.bind (watchLevel_delivers (fun previous hchanged => ?_) _)
    fun _ _ => .pure)
  exact sendAlertChangeNotification_derives ⟨metric, target, previous, _, percent, _⟩
    ⟨htarget, (by decide : (ascii "%").length ≤ 3), hpercent⟩ hchanged

theorem gradeSystemCpu_delivers (calls : RoundCalls) (s : MainState) :
    Delivers s.config (calls.alertTime .system) (gradeSystemCpu calls s) := by
  refine .orStop_bind fun currentCpu _ => .check_bind fun _ => .bind ?_ fun _ _ => .pure
  exact gradePercentage_delivers .systemCpu (by decide) (calculateCpuUsage_bounded _ _)

theorem gradeSystemMemory_delivers (calls : RoundCalls) (s : MainState) :
    Delivers s.config (calls.alertTime .system) (gradeSystemMemory calls s) := by
  refine .orStop_bind fun memory hmemory => .bind ?_ fun _ _ => .pure
  exact gradePercentage_delivers .systemMemory (by decide)
    (getMemoryInfo_usagePercent hmemory)

theorem gradeDisk_delivers (calls : RoundCalls) (s : MainState) :
    Delivers s.config (calls.alertTime .system) (gradeDisk calls s) := by
  refine .orStop_bind fun disk hdisk => .bind ?_ fun _ _ => .pure
  exact gradePercentage_delivers .disk (by decide) (getDiskInfo_usagePercent hdisk)

/-- **The system part of a round** delivers the changes of its levels. -/
theorem monitorSystem_delivers (format : OutputFormat) (calls : RoundCalls) (s : MainState) :
    Delivers s.config (calls.alertTime .system) (monitorSystem format calls s) := by
  refine .bind (gradeSystemCpu_delivers calls s) fun r₁ h₁ => ?_
  have hc₁ := ((gradeSystemCpu_yields calls s).ok _ h₁).sameProcesses.config
  refine .bind (.of_hidden (sampleNetwork_emits (fun _ _ _ => rfl) (fun _ _ _ => rfl) _ _)
    (sampleNetwork_emits (fun _ _ _ => rfl) (fun _ _ _ => rfl) _ _)) fun r₂ h₂ => ?_
  have hc₂ := ((sampleNetwork_yields calls _).ok _ h₂).config.trans hc₁
  refine .bind (hc₂ ▸ gradeSystemMemory_delivers calls r₂.2) fun r₃ h₃ => ?_
  have hc₃ := ((gradeSystemMemory_yields calls _).ok _ h₃).sameProcesses.config.trans hc₂
  refine .bind (hc₃ ▸ gradeDisk_delivers calls r₃.2.2) fun r₄ _ => ?_
  refine .bind (.of_hidden (watchSystemLevel_emits (fun _ _ _ => rfl) _ _ _ _)
    (watchSystemLevel_emits (fun _ _ _ => rfl) _ _ _ _)) fun s₅ _ => ?_
  refine .bind (.of_hidden (writePeriodicLog_emits (fun _ _ _ => rfl) _ _ _ _)
    (writePeriodicLog_emits (fun _ _ _ => rfl) _ _ _ _)) fun s₆ _ => ?_
  exact .orStop_bind fun _ _ => .orStop_bind fun _ _ => .orStop_bind fun _ _ =>
    .emit_bind rfl rfl .pure

end System

/-! ### Runs -/

/-- What is delivered in a round, for a process or for the system. -/
def roundDelivery (config : AppConfig) (calls : RoundCalls) (change : Source × AlertChange) :
    Option (Source × AlertEvent × Bytes) :=
  (delivery config (calls.alertTime change.1) change.2).map fun sent => (change.1, sent)

/-- The actions of one source deliver what the round does. -/
theorem Delivers.rename {α : Type} {ρ' : Type} {h : ρ → ρ'} {calls : RoundCalls}
    {source : Source} {x : Traced Action ρ α} (hx : Delivers config (calls.alertTime source) x) :
    (x.rename (Event.mk source) h).Derives Event.change? Event.sent?
      (roundDelivery config calls) := by
  unfold Delivers Derives shown at hx
  unfold Derives shown
  have hview : ∀ {δ : Type} (view : Action → Option δ),
      (x.events.map (Event.mk source)).filterMap
        (fun e => (view e.action).map fun d => (e.source, d)) =
      (x.events.filterMap view).map fun d => (source, d) := by
    intro δ view
    rw [List.filterMap_map, List.map_filterMap]
    rfl
  unfold Event.change? Event.sent?
  rw [events_rename, hview, hview, hx, List.filterMap_map, List.map_filterMap]
  rfl

/-- **A turn of the loop** delivers the changes of its levels, with the configuration in effect. -/
theorem iteration_delivers {it : Iteration}
    (hs₁ : (reloadIfRequested it.reload s).result = .ok s₁) :
    (iteration format s it).Derives Event.change? Event.sent?
      (roundDelivery s₁.config it.round) := by
  have hreload : ∀ {δ : Type} {view : Action → Option δ} {f : Source → δ → Source × δ},
      (∀ a : Action, a.OfReload → view a = none) →
      (reloadIfRequested it.reload s).Emits
        fun e => (view e.action).map (f e.source) = none := by
    intro δ view f h
    exact (reloadIfRequested_emits _ _).mono fun e he => by rw [h _ he.2, Option.map_none]
  refine .bind (.of_hidden (hreload fun a ha => ?_) (hreload fun a ha => ?_)) fun s' hs' => ?_
  · cases a <;> first | rfl | exact ha.elim
  · cases a <;> first | rfl | exact ha.elim
  obtain rfl := Except.ok.inj (hs₁.symm.trans hs')
  refine .bind ?_ fun s₂ hs₂ => .bind ?_ fun _ _ => .pure
  · refine .run (I := fun s => s.config = s₁.config) (fun t i t' ht h => ?_) (fun t i ht => ?_)
      rfl _
    · obtain ⟨p, -, h⟩ := result_bind_ok.mp h
      obtain rfl := Except.ok.inj h
      exact ht
    · refine .bind ?_ fun _ _ => .pure
      rw [ht]
      exact Delivers.rename (monitorProcessOnce_delivers _ (it.round.processes i) _)
  · obtain ⟨-, -, heq⟩ := run_monitorProcess_ok (nodup_processIndices _) hs₂
    have hconfig : s₂.config = s₁.config := by rw [heq]
    rw [← hconfig]
    exact Delivers.rename (monitorSystem_delivers format it.round s₂)

/-- A command that may be called is not empty. -/
theorem notificationCommand_ne_nil (h : Usable config) (henabled : config.notificationEnabled = 1) :
    config.notificationCommand.cstr ≠ [] := by
  obtain ⟨-, -, -, -, -, -, -, hterminated, hcommand, -⟩ := configValidate_eq_none.mp h.valid
  intro hnil
  exact hcommand ⟨henabled, (head?_eq_zero_iff hterminated).mpr hnil⟩

/-- **What a turn sends** is what is delivered of the changes of levels that it has come across,
in order and each once: where notifications are enabled, each change whose time can be found
out, with that time and to the command of the configuration in effect, which is not empty;
where they are not, nothing. -/
theorem sent_eq_deliveries (format : OutputFormat) (calls : StartCalls) (its : List Iteration)
    (s₀ : MainState) (hs₀ : (start calls).result = .ok s₀) :
    ∀ c ∈ taken (iteration format) s₀ its, ∀ s,
      (reloadIfRequested c.2.reload c.1).result = .ok s →
      (iteration format c.1 c.2).shown Event.sent? =
        ((iteration format c.1 c.2).shown Event.change?).filterMap
          (roundDelivery s.config c.2.round) ∧
      ∀ sent ∈ (iteration format c.1 c.2).shown Event.sent?, sent.2.2 ≠ [] := by
  intro c hc s hs
  have hsent : (iteration format c.1 c.2).shown Event.sent? = _ := iteration_delivers hs
  refine ⟨hsent, fun sent hmem => ?_⟩
  have hop : Operating s := reloadIfRequested_operating (taken_operating (start_operating hs₀) hc) hs
  rw [hsent] at hmem
  obtain ⟨⟨source, change⟩, -, hdelivered⟩ := List.mem_filterMap.mp hmem
  obtain ⟨⟨event, command⟩, hdelivery, rfl⟩ := Option.map_eq_some_iff.mp hdelivered
  unfold delivery at hdelivery
  split_ifs at hdelivery with henabled
  obtain ⟨-, rfl⟩ := Prod.mk.inj (Option.some.inj hdelivery)
  exact notificationCommand_ne_nil hop.usable henabled.1

/-- A start with notifications enabled. -/
def notifyingStart : StartCalls :=
  quietStart .zero (ascii "process_names=a\nnotification_enabled=1\nnotification_command=n\n")
    (quietProc [])

/-- That the memory is used up is sent, once, to the command. -/
theorem sent_eq_deliveries_exhausted : ∃ (s : MainState) (c : MainState × Iteration),
    (iteration .json c.1 c.2).shown Event.sent? =
      [(.system, memoryUsedUp)].filterMap (roundDelivery s.config c.2.round) ∧
    ((iteration .json c.1 c.2).shown Event.sent?).map (fun sent => sent.2.2) = [ascii "n"] := by
  have hok : ((start notifyingStart).result.map fun s₀ =>
      (taken (iteration .json) s₀ exhaustingRounds).any fun c => c.2.reload.isNone &&
        (decide ((iteration .json c.1 c.2).shown Event.change? = [(.system, memoryUsedUp)]) &&
        decide (((iteration .json c.1 c.2).shown Event.sent?).map (fun sent => sent.2.2) =
          [ascii "n"]))) = .ok true := by decide +kernel
  obtain ⟨s₀, hs₀, hany⟩ := ok_of_map_ok hok
  obtain ⟨c, hc, hshown⟩ := List.any_eq_true.mp hany
  simp only [Bool.and_eq_true, decide_eq_true_eq, Option.isNone_iff_eq_none] at hshown
  obtain ⟨hreload, hchanges, hsent⟩ := hshown
  have hderived := (sent_eq_deliveries .json notifyingStart exhaustingRounds s₀ hs₀ c hc c.1
    (by rw [hreload]; rfl)).1
  rw [hchanges] at hderived
  exact ⟨c.1, c, hderived, hsent⟩

end EdgeSentinel.Monitor
