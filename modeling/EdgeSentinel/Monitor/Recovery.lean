import EdgeSentinel.Monitor.CpuSamples

/-!
# Processes that come back

A target that is unavailable in one round may be available again in a later one, under its old
PID or under a new one. Then the log should say so once, and the levels of its memory and its
CPU usage should be taken anew, as it need not be the same process.

## What is proved

* `monitorProcessOnce_records` — the log records that a call writes about the availability.
* `reportsChange_iff` — **in a run**, a round reports each change of the availability since the
  round before **if and only if** it does not find an available target by its name.
* `isStatusChange_iff` — when a call reports a change of a level although there is no sample of
  CPU times.
* `startsAnew_iff` — **in a run**, a round in which a target is available again compares no
  levels **if and only if** the target was found by its name, or its memory level is not
  remembered, or is the same.
-/

namespace EdgeSentinel.Monitor

open CLib Config Trace Trace.Traced

variable {config : AppConfig} {calls : ProcessCalls} {p p' : MonitoredProcess} {ρ : Type}

/-! ### Records about the availability -/

/-- The message of a log record about the availability. -/
def availabilityRecord : Action → Option Bytes
  | .logWrite .availability _ _ message => some message
  | _ => none

theorem readProcess_noRecord (config : AppConfig) (calls : ProcessCalls) (p : MonitoredProcess) :
    (readProcess config calls p).Emits fun a => availabilityRecord a = none := by
  unfold readProcess
  split
  · exact .emit_bind rfl .pure
  · exact .emit_bind rfl (gradeMemory_emits_of (fun _ _ => rfl) (fun _ _ _ => rfl)
      (fun _ _ _ => rfl) fun _ _ => rfl)

theorem monitorProcessCpu_noRecord (config : AppConfig) (calls : ProcessCalls)
    (p : MonitoredProcess) :
    (monitorProcessCpu config calls p).Emits fun a => availabilityRecord a = none := by
  refine monitorProcessCpu_emits_of (fun _ => rfl) (fun _ _ _ => rfl) fun _ times time => ?_
  refine compareCpuSamples_emits_of (fun _ _ _ _ => rfl) ?_
  exact gradeProcessCpu_emits_of (fun _ _ => rfl) (fun _ _ _ => rfl) (fun _ _ => rfl)
    fun _ _ => rfl

/-- **The comparison** with the availability before writes a record if there was one before, and
it was another one. -/
theorem watchAvailability_records (h : (watchAvailability config calls p).result = .ok p') :
    (watchAvailability config calls p).shown availabilityRecord =
      if p.availabilityInitialized = true ∧ p.available ≠ p.previousAvailable
      then [(availabilityLogMessage p).2] else [] := by
  unfold watchAvailability at h ⊢
  by_cases hinitialized : p.availabilityInitialized = true
  swap
  · rw [if_pos hinitialized, if_neg fun hboth => hinitialized hboth.1]
    rfl
  rw [if_neg (not_not.mpr hinitialized)] at h ⊢
  by_cases hchanged : p.available ≠ p.previousAvailable
  · rw [if_pos hchanged] at h ⊢
    generalize availabilityLogMessage p = record at h ⊢
    obtain ⟨level, message⟩ := record
    obtain ⟨⟨⟩, hlength, h⟩ := result_bind_ok.mp h
    obtain ⟨⟨⟩, hwritten, h⟩ := result_bind_ok.mp h
    dsimp only
    rw [if_pos ⟨hinitialized, hchanged⟩, shown_bind_of_ok hlength, shown_bind_of_ok hwritten,
      shown_of_hidden .check, writeLog, shown_bind_of_hidden fun _ => .check]
    rfl
  · rw [if_neg hchanged, if_neg fun hboth => hchanged hboth.2]
    rfl

/-- **The records of a call** about the availability: those of its last comparison. -/
theorem monitorProcessOnce_records (h : (monitorProcessOnce config calls p).result = .ok p') :
    (monitorProcessOnce config calls p).shown availabilityRecord =
      if (lookedUp calls p).availabilityInitialized = true ∧
        p'.available ≠ (lookedUp calls p).previousAvailable
      then [(availabilityLogMessage p').2] else [] := by
  have hlookUp : (lookUpProcess calls p).Emits fun a => availabilityRecord a = none := by
    intro a ha
    obtain ⟨pid, rfl⟩ := lookUpProcess_emits calls p a ha
    rfl
  have hlast : ∀ q : MonitoredProcess, (do
      emit (.monitored q)
      pure q : Traced Action MonitorFailure MonitoredProcess).Emits
        fun a => availabilityRecord a = none := fun q => .emit_bind rfl .pure
  obtain ⟨p₁, hp₁, h⟩ := result_bind_ok.mp h
  obtain rfl := Except.ok.inj ((lookUpProcess_result calls p).symm.trans hp₁)
  obtain ⟨p₂, hp₂, h⟩ := result_bind_ok.mp h
  obtain ⟨p₃, hp₃, h⟩ := result_bind_ok.mp h
  obtain ⟨p₄, hp₄, h⟩ := result_bind_ok.mp h
  rw [result_emit_bind] at h
  obtain rfl := Except.ok.inj h
  rw [monitorProcessOnce, shown_bind_of_ok hp₁, shown_of_hidden hlookUp, List.nil_append,
    shown_bind_of_ok hp₂, shown_of_hidden (readProcess_noRecord _ _ _), List.nil_append,
    shown_bind_of_ok hp₃, shown_of_hidden (monitorProcessCpu_noRecord _ _ _), List.nil_append,
    shown_bind_of_hidden hlast, watchAvailability_records hp₄]
  obtain rfl := watchAvailability_ok hp₄
  -- nothing in between touches what was seen of the availability before
  obtain ⟨-, hprevious, hinitialized⟩ := monitorProcessCpu_keeps hp₃
  rw [hprevious, hinitialized]
  obtain ⟨-, rfl⟩ | ⟨info, -, hp₂⟩ := readProcess_ok hp₂
  · rfl
  · rw [hp₂]
    rfl

/-! ### Changes of the availability -/

/-- The log records of a round report how the availability has changed. -/
structure ReportsChange (records : List Bytes) (before now : Bool) : Prop where
  /-- There is none if it is the same. -/
  same : now = before → records = []
  /-- There is one if the process has become available. -/
  recovered : before = false → now = true →
    ∃ details, records = [ascii "Monitored process recovered: " ++ details]
  /-- There is one if it has stopped being available. -/
  unavailable : before = true → now = false →
    ∃ details, records = [ascii "Monitored process unavailable: " ++ details]

/-- A target is found by its name, and it can be read. -/
def FoundAvailable (calls : ProcessCalls) (p : MonitoredProcess) : Prop :=
  NewlyFound calls p ∧ (readProcessInfo calls.status (pidInRound calls p)).isSome

/-- The message says which change it is. -/
theorem availabilityLogMessage_reports (p : MonitoredProcess) {before : Bool} :
    ReportsChange (if p.available ≠ before then [(availabilityLogMessage p).2] else []) before
      p.available := by
  have hrecovered : ascii "Monitored process recovered: PID=" =
      ascii "Monitored process recovered: " ++ ascii "PID=" := by decide
  have hunavailable : ascii "Monitored process unavailable: PID=" =
      ascii "Monitored process unavailable: " ++ ascii "PID=" := by decide
  refine ⟨fun h => if_neg (not_not.mpr h), fun hbefore hnow => ?_, fun hbefore hnow => ?_⟩
  · rw [if_pos (by simp [hbefore, hnow]), availabilityLogMessage, if_pos hnow]
    dsimp only
    rw [hrecovered]
    simp only [List.append_assoc]
    exact ⟨_, rfl⟩
  · rw [if_pos (by simp [hbefore, hnow]), availabilityLogMessage, if_neg (by simp [hnow])]
    dsimp only
    rw [hunavailable, List.append_assoc]
    exact ⟨_, rfl⟩

/-- **A call** with the record of a completed round reports the change since then, if and only if
it does not find an available target by its name. -/
theorem reportsChange_call_iff (hinitialized : p.availabilityInitialized = true)
    (hprevious : p.previousAvailable = p.available)
    (hpid : p.currentPid = 0 → p.available = false)
    (h : (monitorProcessOnce config calls p).result = .ok p') :
    ReportsChange ((monitorProcessOnce config calls p).shown availabilityRecord) p.available
      p'.available ↔ ¬ FoundAvailable calls p := by
  rw [monitorProcessOnce_records h]
  have havailable := (monitorProcessOnce_ok h).available
  by_cases hfound : NewlyFound calls p
  · -- what was seen of the availability is forgotten: there is no record
    have hbefore : p.available = false := hpid hfound.2.1
    rw [lookedUp_of_newlyFound hfound, hbefore]
    rw [if_neg fun hboth => (by cases hboth.1)]
    unfold FoundAvailable
    rw [← havailable]
    constructor
    · rintro hreports ⟨-, hnow⟩
      obtain ⟨details, hrecords⟩ := hreports.recovered rfl hnow
      cases hrecords
    · intro hnot
      have hnow : p'.available = false := eq_false_of_ne_true fun hnow => hnot ⟨hfound, hnow⟩
      rw [hnow]
      exact ⟨fun _ => rfl, fun _ h => (by cases h), fun h => (by cases h)⟩
  · rw [lookedUp_of_not_newlyFound hfound, hinitialized, hprevious]
    simp only [true_and]
    exact ⟨fun _ hagain => hfound hagain.1, fun _ => availabilityLogMessage_reports p'⟩

/-! ### Runs -/

variable {format : OutputFormat} {s₀ s t : MainState} {its : List Iteration}
  {b c : MainState × Iteration} {i : ProcessIndex} {q : MonitoredProcess}

/-- Behind a call, what is kept of the availability for the next one is that of the record, and
a record without a PID is unavailable. -/
theorem availability_of_result (h : (monitorProcessOnce config calls p).result = .ok p') :
    p'.availabilityInitialized = true ∧ p'.previousAvailable = p'.available ∧
      (p'.currentPid = 0 → p'.available = false) := by
  obtain ⟨hinitialized, hprevious⟩ : p'.availabilityInitialized = true ∧
      p'.previousAvailable = p'.available := by
    cases monitorProcessOnce_outcome h <;> exact ⟨rfl, rfl⟩
  have hafter := monitorProcessOnce_ok h
  refine ⟨hinitialized, hprevious, fun hpid => ?_⟩
  rw [hafter.available, ← hafter.currentPid, hpid]
  rfl

/-- **What a round begins with**, of the availability in the round before. -/
theorem PrecedingRound.availability (h : PrecedingRound format s₀ its b c) (hs₀ : Operating s₀)
    (hb : Monitors format b i t q) (hs : (reloadIfRequested c.2.reload c.1).result = .ok s)
    (hi : i.val < s.processCount) :
    (s.processes i).availabilityInitialized = true ∧
      (s.processes i).previousAvailable = (s.processes i).available ∧
      ((s.processes i).currentPid = 0 → (s.processes i).available = false) ∧
      (s.processes i).available = q.available := by
  obtain ⟨-, hq⟩ := hb.result
  obtain ⟨t', p, ht', -, hp, hleft⟩ := h.leaves hs₀ hs hi
  obtain rfl := Except.ok.inj (hb.reload.symm.trans ht')
  obtain rfl := Except.ok.inj (hq.symm.trans hp)
  obtain ⟨hinitialized, hprevious, hpid⟩ := availability_of_result hq
  obtain heq | ⟨hunavailable, heq⟩ := hleft
  · rw [heq]
    exact ⟨hinitialized, hprevious, hpid, rfl⟩
  · rw [heq]
    exact ⟨hinitialized, hprevious, fun _ => hunavailable, rfl⟩

/-- **Changes of the availability**: between two reloads that are applied, a round writes one log
record for a process if its availability is not that of the round before, which says so, and
otherwise none, if and only if it does not find an available target by its name. -/
theorem reportsChange_iff (format : OutputFormat) (calls : StartCalls) (its : List Iteration)
    (s₀ : MainState) (hs₀ : (start calls).result = .ok s₀) :
    ∀ b c, PrecedingRound format s₀ its b c → ∀ i t q s p',
      Monitors format b i t q → Monitors format c i s p' →
      (ReportsChange ((iteration format c.1 c.2).shown (ofProcess i availabilityRecord))
        q.available p'.available ↔
        ¬ FoundAvailable (c.2.round.processes i) (s.processes i)) := by
  intro b c hbefore i t q s p' hb hc
  obtain ⟨hi, hp'⟩ := hc.result
  obtain ⟨hinitialized, hprevious, hpid, havailable⟩ :=
    hbefore.availability (start_operating hs₀) hb hc.reload hi
  rw [hc.shown, ← havailable]
  exact reportsChange_call_iff hinitialized hprevious hpid hp'

/-- The availability with which a call returns. -/
def availabilityReturned : Action → Option Bool
  | .monitored p => some p.available
  | _ => none

theorem monitors_of_shown {now : Bool}
    (h : now ∈ (iteration format c.1 c.2).shown (ofProcess i availabilityReturned)) :
    ∃ s p', Monitors format c i s p' ∧ p'.available = now := by
  obtain ⟨a, he, hview⟩ := mem_shown_ofProcess.mp h
  cases a with
  | monitored p' =>
    obtain ⟨s, hs, -⟩ := process_event_of_iteration he
    exact ⟨s, p', ⟨hs, he⟩, Option.some.inj hview⟩
  | _ => cases hview

/-- Without a SIGHUP no configuration is applied. -/
theorem not_appliesReload_of_none (h : c.2.reload = none) : ¬ AppliesReload c.1 c.2 := by
  rintro ⟨calls, hcalls, -⟩
  rw [h] at hcalls
  cases hcalls

/-- A start with a target that is there. -/
def restartingStart : StartCalls :=
  quietStart .zero (ascii "process_names=a\n") (quietProc [(7, ascii "a")])

/-- Three rounds: the target is there, it has exited, and it is there again with another PID. -/
def restartingRounds : List Iteration :=
  [⟨none, quietRound (quietProc [(7, ascii "a")]) 1⟩, ⟨none, quietRound (quietProc []) 2⟩,
    ⟨none, quietRound (quietProc [(9, ascii "a")]) 3⟩]

/-- A run of three turns without a SIGHUP. -/
theorem three_turns {calls : StartCalls} {β : Type} {view : MainState × Iteration → β}
    {v₁ v₂ v₃ : β} (hquiet : ∀ it ∈ its, it.reload = none)
    (h : ((start calls).result.map fun s₀ => (taken (iteration format) s₀ its).map view) =
      .ok [v₁, v₂, v₃]) :
    ∃ s₀ c₁ c₂ c₃, (start calls).result = .ok s₀ ∧ PrecedingRound format s₀ its c₁ c₂ ∧
      PrecedingRound format s₀ its c₂ c₃ ∧ view c₁ = v₁ ∧ view c₂ = v₂ ∧ view c₃ = v₃ := by
  obtain ⟨s₀, hs₀, htaken⟩ := ok_of_map_ok h
  obtain ⟨c₁, cs, hcs, h₁, htaken⟩ := List.map_eq_cons_iff.mp htaken
  obtain ⟨c₂, cs, rfl, h₂, htaken⟩ := List.map_eq_cons_iff.mp htaken
  obtain ⟨c₃, cs, rfl, h₃, htaken⟩ := List.map_eq_cons_iff.mp htaken
  obtain rfl := List.map_eq_nil_iff.mp htaken
  have hunreloaded : ∀ c ∈ taken (iteration format) s₀ its, ¬ AppliesReload c.1 c.2 :=
    fun c hc => not_appliesReload_of_none (hquiet _
      ((isPrefix_map_snd_taken _ _ _).subset (List.mem_map_of_mem hc)))
  rw [hcs] at hunreloaded
  exact ⟨s₀, c₁, c₂, c₃, hs₀, ⟨⟨[], [c₃], hcs.symm⟩, hunreloaded c₂ (by simp)⟩,
    ⟨⟨[c₁], [], hcs.symm⟩, hunreloaded c₃ (by simp)⟩, h₁, h₂, h₃⟩

/-- What the run shows: one record that the target is unavailable, and none that it is back. -/
theorem restarting_shown : ∃ s₀ c₁ c₂ c₃, (start restartingStart).result = .ok s₀ ∧
    PrecedingRound .json s₀ restartingRounds c₁ c₂ ∧
    PrecedingRound .json s₀ restartingRounds c₂ c₃ ∧
    (iteration .json c₁.1 c₁.2).shown (ofProcess 0 availabilityReturned) = [true] ∧
    (iteration .json c₂.1 c₂.2).shown (ofProcess 0 availabilityReturned) = [false] ∧
    (iteration .json c₃.1 c₃.2).shown (ofProcess 0 availabilityReturned) = [true] ∧
    (iteration .json c₃.1 c₃.2).shown (ofProcess 0 availabilityRecord) = [] := by
  have hok : ((start restartingStart).result.map fun s₀ =>
      (taken (iteration .json) s₀ restartingRounds).map fun c =>
        ((iteration .json c.1 c.2).shown (ofProcess 0 availabilityReturned),
          (iteration .json c.1 c.2).shown (ofProcess 0 availabilityRecord))) =
      .ok [([true], []), ([false], [ascii "Monitored process unavailable: PID=7"]),
        ([true], [])] := by decide +kernel
  obtain ⟨s₀, c₁, c₂, c₃, hs₀, h₁₂, h₂₃, h₁, h₂, h₃⟩ :=
    three_turns (by simp [restartingRounds]) hok
  exact ⟨s₀, c₁, c₂, c₃, hs₀, h₁₂, h₂₃, (Prod.mk.inj h₁).1, (Prod.mk.inj h₂).1,
    (Prod.mk.inj h₃).1, (Prod.mk.inj h₃).2⟩

/-- That the target has exited is reported. -/
theorem reportsChange_exited : ∃ s₀ b c t q s p',
    PrecedingRound .json s₀ restartingRounds b c ∧ Monitors .json b 0 t q ∧
    Monitors .json c 0 s p' ∧ q.available = true ∧ p'.available = false ∧
    (ReportsChange ((iteration .json c.1 c.2).shown (ofProcess 0 availabilityRecord))
      q.available p'.available ↔ ¬ FoundAvailable (c.2.round.processes 0) (s.processes 0)) := by
  obtain ⟨s₀, b, c, -, hs₀, hbefore, -, hb, hc, -⟩ := restarting_shown
  obtain ⟨t, q, hq, hqavailable⟩ := monitors_of_shown (hb ▸ List.mem_singleton_self true)
  obtain ⟨s, p', hp', hp'available⟩ := monitors_of_shown (hc ▸ List.mem_singleton_self false)
  exact ⟨s₀, b, c, t, q, s, p', hbefore, hq, hp', hqavailable, hp'available,
    reportsChange_iff .json restartingStart restartingRounds s₀ hs₀ b c hbefore 0 t q s p' hq hp'⟩

/-- That it is back is not. -/
theorem recovery_not_reported : ¬ ∀ (format : OutputFormat) (calls : StartCalls)
    (its : List Iteration) (s₀ : MainState), (start calls).result = .ok s₀ →
    ∀ b c, PrecedingRound format s₀ its b c → ∀ i t q s p',
      Monitors format b i t q → Monitors format c i s p' →
      ReportsChange ((iteration format c.1 c.2).shown (ofProcess i availabilityRecord))
        q.available p'.available := by
  intro h
  obtain ⟨s₀, -, b, c, hs₀, -, hbefore, -, hb, hc, hnone⟩ := restarting_shown
  obtain ⟨t, q, hq, hqavailable⟩ := monitors_of_shown (hb ▸ List.mem_singleton_self false)
  obtain ⟨s, p', hp', hp'available⟩ := monitors_of_shown (hc ▸ List.mem_singleton_self true)
  have hreports := h .json restartingStart restartingRounds s₀ hs₀ b c hbefore 0 t q s p' hq hp'
  rw [hnone, hqavailable, hp'available] at hreports
  obtain ⟨details, hrecords⟩ := hreports.recovered rfl rfl
  cases hrecords

/-! ### Changes of a level -/

/-- A change of the level of a process is logged or notified. -/
def Action.IsStatusChange : Action → Prop
  | .alertChanged change => change.metric = .processMemory ∨ change.metric = .processCpu
  | .notifierSend event _ => event.metric = .processMemory ∨ event.metric = .processCpu
  | .logWrite call _ _ _ => call = .processMemory ∨ call = .processCpu
  | _ => False

/-- The memory level that is remembered is not the one of what is read. -/
def MemoryLevelChanges (config : AppConfig) (info : ProcessInfo) (p : MonitoredProcess) : Prop :=
  p.memoryBaseline.initialized = true ∧ memoryLevelOf config info ≠ p.memoryBaseline.previous

theorem gradeMemory_noStatusChange (h : ¬ MemoryLevelChanges config p.info p) :
    (gradeMemory config calls p).Emits fun a => ¬ a.IsStatusChange := by
  refine .check_bind (.emit_bind id (.bind ?_ fun _ _ => .pure))
  unfold watchLevel
  split_ifs with hinitialized hchanged
  · exact absurd ⟨hinitialized, hchanged⟩ h
  · exact .pure
  · exact .pure

theorem watchLevel_changed {baseline : LevelBaseline} {level : AlertLevel}
    {changed : AlertLevel → Traced Action ρ PUnit} (hinitialized : baseline.initialized = true)
    (hchanged : level ≠ baseline.previous) : watchLevel baseline level changed = (do
      changed baseline.previous
      pure { baseline with previous := level }) := by
  rw [watchLevel, if_neg (not_not.mpr hinitialized), if_pos hchanged]

/-- A change of the memory level is logged. -/
theorem gradeMemory_statusChange (h : MemoryLevelChanges config p.info p)
    (hok : (gradeMemory config calls p).result = .ok p') :
    ∃ a ∈ (gradeMemory config calls p).events, a.IsStatusChange := by
  obtain ⟨hinitialized, hchanged⟩ := h
  unfold memoryLevelOf memoryMibOf at hchanged
  obtain ⟨⟨⟩, hcheck, hok⟩ := result_bind_ok.mp hok
  rw [result_emit_bind] at hok
  obtain ⟨baseline, hbaseline, -⟩ := result_bind_ok.mp hok
  rw [watchLevel_changed hinitialized hchanged] at hbaseline
  obtain ⟨⟨⟩, hlogged, -⟩ := result_bind_ok.mp hbaseline
  obtain ⟨⟨⟩, hlength, -⟩ := result_bind_ok.mp hlogged
  refine ⟨.logWrite .processMemory config.logFile.cstr
    (alertLevelToString (memoryLevelOf config p.info))
    (memoryLogMessage p.memoryBaseline.previous (memoryLevelOf config p.info) p.currentPid
      (memoryMibOf p.info)), ?_, .inl rfl⟩
  refine mem_events_bind.mpr (.inr ⟨⟨⟩, hcheck, List.mem_cons_of_mem _ ?_⟩)
  refine mem_events_bind.mpr (.inl ?_)
  rw [watchLevel_changed hinitialized hchanged]
  refine mem_events_bind.mpr (.inl (mem_events_bind.mpr (.inr ⟨⟨⟩, hlength, ?_⟩)))
  exact mem_events_bind.mpr (.inl List.mem_cons_self)

/-- **A call without a sample** of CPU times reports a change of a level exactly if the memory
level that is remembered behind the look-up is not the one of what it reads. -/
theorem isStatusChange_iff {info : ProcessInfo}
    (hsample : (lookedUp calls p).cpuSampleInitialized = false)
    (hread : readProcessInfo calls.status (pidInRound calls p) = some info)
    (hok : (monitorProcessOnce config calls p).result = .ok p') :
    (∃ a ∈ (monitorProcessOnce config calls p).events, a.IsStatusChange) ↔
      MemoryLevelChanges config info (lookedUp calls p) := by
  constructor
  · rintro ⟨a, ha, hchange⟩
    by_contra hsame
    cases event_of_call ha with
    | found pid => exact hchange
    | unavailable pid => exact hchange
    | infoRead info' => exact hchange
    | memory info' hread' h =>
      obtain rfl := Option.some.inj (hread.symm.trans hread')
      exact gradeMemory_noStatusChange hsame _ h hchange
    | cpuTimesUnreadable pid => exact hchange
    | cpuTimesRead pid times time => exact hchange
    | compared info' times time hread' htimes hclock h =>
      rw [compareCpuSamples, if_pos (by simpa [wasRead] using hsample)] at h
      cases h
    | availability p₃ h =>
      have hnone := watchAvailability_emits (P := fun a => ¬ a.IsStatusChange)
        (by simp [Action.IsStatusChange]) config calls p₃
      exact hnone a h hchange
    | monitored p' h => exact hchange
  · intro hchanges
    obtain ⟨p₁, hp₁, hok⟩ := result_bind_ok.mp hok
    obtain rfl := Except.ok.inj ((lookUpProcess_result calls p).symm.trans hp₁)
    obtain ⟨p₂, hp₂, -⟩ := result_bind_ok.mp hok
    rw [← currentPid_lookedUp] at hread
    have hreadProcess : readProcess config calls (lookedUp calls p) = (do
        emit (.infoRead info)
        gradeMemory config calls { lookedUp calls p with info := info, available := true }) := by
      rw [readProcess, hread]
    rw [hreadProcess, result_emit_bind] at hp₂
    obtain ⟨a, ha, hchange⟩ := gradeMemory_statusChange hchanges hp₂
    refine ⟨a, mem_events_bind.mpr (.inr ⟨_, hp₁, mem_events_bind.mpr (.inl ?_)⟩), hchange⟩
    rw [hreadProcess]
    exact List.mem_cons_of_mem _ ha

/-- A call does not compare the memory level with one that is remembered, or it is the same. -/
def StartsAnew (config : AppConfig) (calls : ProcessCalls) (p : MonitoredProcess) : Prop :=
  NewlyFound calls p ∨ p.memoryBaseline.initialized = false ∨
    ∀ info, readProcessInfo calls.status (pidInRound calls p) = some info →
      memoryLevelOf config info = p.memoryBaseline.previous

/-- **Levels of a process that is back**: a round that finds a process available, which was not
in its record, that is, in the round before or since it was set up, logs and notifies no change
of its levels if and only if it was found by its name, or its memory level is not remembered, or
is the same. -/
theorem startsAnew_iff (format : OutputFormat) (calls : StartCalls) (its : List Iteration)
    (s₀ : MainState) (hs₀ : (start calls).result = .ok s₀) :
    ∀ c ∈ taken (iteration format) s₀ its, ∀ i s p', Monitors format c i s p' →
      (s.processes i).available = false → p'.available = true →
      ((∀ a, ⟨.process i, a⟩ ∈ (iteration format c.1 c.2).events → ¬ a.IsStatusChange) ↔
        StartsAnew s.config (c.2.round.processes i) (s.processes i)) := by
  intro c hc i s p' hmonitors hbefore hnow
  obtain ⟨hi, hok⟩ := hmonitors.result
  -- an unavailable process has no sample of its CPU times
  have hsample : (s.processes i).cpuSampleInitialized = false := by
    refine eq_false_of_ne_true fun hflag => ?_
    obtain ⟨havailable, -⟩ := sample_of_initialized hs₀ hc hmonitors.reload hi hflag
    rw [hbefore] at havailable
    cases havailable
  rw [(monitorProcessOnce_ok hok).available] at hnow
  obtain ⟨info, hread⟩ := Option.isSome_iff_exists.mp hnow
  have hevents : (∀ a, ⟨.process i, a⟩ ∈ (iteration format c.1 c.2).events →
      ¬ a.IsStatusChange) ↔ ¬ ∃ a ∈ (monitorProcessOnce s.config (c.2.round.processes i)
        (s.processes i)).events, a.IsStatusChange := by
    simp only [hmonitors.mem_events, not_exists, not_and]
  rw [hevents, StartsAnew]
  by_cases hfound : NewlyFound (c.2.round.processes i) (s.processes i)
  · have hlookedUp := lookedUp_of_newlyFound hfound
    rw [isStatusChange_iff (by rw [hlookedUp]; rfl) hread hok, hlookedUp]
    exact ⟨fun _ => .inl hfound, fun _ hchanges => (by cases hchanges.1)⟩
  · have hlookedUp := lookedUp_of_not_newlyFound hfound
    rw [isStatusChange_iff (by rw [hlookedUp, hsample]) hread hok, hlookedUp, hread]
    simp only [hfound, false_or, Option.some.injEq, forall_eq', MemoryLevelChanges, not_and,
      not_not]
    rw [or_iff_not_imp_left, Bool.not_eq_false]

/-- A start with a target known by its PID. -/
def returningStart : StartCalls :=
  quietStart .zero (ascii "process_pid=7\n") (quietProc [])

/-- Three rounds: the PID is there, it is gone, and it is there again and uses more memory. -/
def returningRounds : List Iteration :=
  [⟨none, sampledRound (ascii "1024") 1⟩, ⟨none, quietRound (quietProc []) 2⟩,
    ⟨none, sampledRound (ascii "1048576") 3⟩]

/-- The metric of an alert. -/
def alertedMetric : Action → Option AlertMetric
  | .alertChanged change => some change.metric
  | _ => none

/-- What the run shows: the level of the memory is compared with the one from before. -/
theorem returning_shown : ∃ s₀ b c, (start returningStart).result = .ok s₀ ∧
    PrecedingRound .json s₀ returningRounds b c ∧
    (iteration .json b.1 b.2).shown (ofProcess 0 availabilityReturned) = [false] ∧
    (iteration .json c.1 c.2).shown (ofProcess 0 availabilityReturned) = [true] ∧
    (iteration .json c.1 c.2).shown (ofProcess 0 alertedMetric) = [.processMemory] := by
  have hok : ((start returningStart).result.map fun s₀ =>
      (taken (iteration .json) s₀ returningRounds).map fun c =>
        ((iteration .json c.1 c.2).shown (ofProcess 0 availabilityReturned),
          (iteration .json c.1 c.2).shown (ofProcess 0 alertedMetric))) =
      .ok [([true], []), ([false], []), ([true], [.processMemory])] := by decide +kernel
  obtain ⟨s₀, c₁, c₂, c₃, hs₀, -, h₂₃, -, h₂, h₃⟩ := three_turns (by simp [returningRounds]) hok
  exact ⟨s₀, c₂, c₃, hs₀, h₂₃, (Prod.mk.inj h₂).1, (Prod.mk.inj h₃).1, (Prod.mk.inj h₃).2⟩

/-- The round in which the process is back is one that the theorem is about. -/
theorem startsAnew_returning : ∃ s₀ b c t q s p',
    PrecedingRound .json s₀ returningRounds b c ∧ Monitors .json b 0 t q ∧
    Monitors .json c 0 s p' ∧ q.available = false ∧ p'.available = true ∧
    ((∀ a, ⟨.process 0, a⟩ ∈ (iteration .json c.1 c.2).events → ¬ a.IsStatusChange) ↔
      StartsAnew s.config (c.2.round.processes 0) (s.processes 0)) := by
  obtain ⟨s₀, b, c, hs₀, hbefore, hb, hc, -⟩ := returning_shown
  obtain ⟨t, q, hq, hqavailable⟩ := monitors_of_shown (hb ▸ List.mem_singleton_self false)
  obtain ⟨s, p', hp', hp'available⟩ := monitors_of_shown (hc ▸ List.mem_singleton_self true)
  have hmem : c ∈ taken (iteration .json) s₀ returningRounds :=
    hbefore.adjacent.subset (by simp)
  obtain ⟨-, -, -, havailable⟩ := hbefore.availability (start_operating hs₀) hq hp'.reload
    hp'.result.1
  exact ⟨s₀, b, c, t, q, s, p', hbefore, hq, hp', hqavailable, hp'available,
    startsAnew_iff .json returningStart returningRounds s₀ hs₀ c hmem 0 s p' hp'
      (havailable.trans hqavailable) hp'available⟩

/-- An alert is sent for a process that is back. -/
theorem returning_alerted : ¬ ∀ (format : OutputFormat) (calls : StartCalls)
    (its : List Iteration) (s₀ : MainState), (start calls).result = .ok s₀ →
    ∀ b c, PrecedingRound format s₀ its b c → ∀ i t q s p',
      Monitors format b i t q → Monitors format c i s p' →
      q.available = false → p'.available = true →
      ∀ a, ⟨.process i, a⟩ ∈ (iteration format c.1 c.2).events → ¬ a.IsStatusChange := by
  intro h
  obtain ⟨s₀, b, c, hs₀, hbefore, hb, hc, halerted⟩ := returning_shown
  obtain ⟨t, q, hq, hqavailable⟩ := monitors_of_shown (hb ▸ List.mem_singleton_self false)
  obtain ⟨s, p', hp', hp'available⟩ := monitors_of_shown (hc ▸ List.mem_singleton_self true)
  obtain ⟨a, he, hview⟩ := mem_shown_ofProcess.mp (halerted ▸ List.mem_singleton_self _)
  refine h .json returningStart returningRounds s₀ hs₀ b c hbefore 0 t q s p' hq hp' hqavailable
    hp'available a he ?_
  cases a with
  | alertChanged change => exact .inl (Option.some.inj hview)
  | _ => cases hview

end EdgeSentinel.Monitor
