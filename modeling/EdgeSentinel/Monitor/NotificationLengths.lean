import EdgeSentinel.Monitor.Alerts
import EdgeSentinel.Monitor.Notifier

/-!
# The length of a notification

`send_alert_change_notification` only reports an event that `alert_event_init` refuses, or a
message that `notifier_format_message` cannot fit into its buffer of 512 bytes. The level that was
seen last has changed by then, so the change would be lost.

## What is proved

* `AlertChange.Fits` — the bounds that the callers keep: 255 bytes for the target, 3 for the unit,
  and a value below 10³¹. Each block of the round that grades a level keeps them
  (`gradeMemory_fits`, `compareCpuSamples_fits`, `gradePercentage_fits`).
* `AlertChange.Fits.exists_message` — what fits makes a message of less than 512 bytes.
* `notDropped_of_daemon` — **in every run** no change of a level is dropped for its text.
-/

namespace EdgeSentinel.Monitor

open CLib Config Trace Trace.Traced

/-- The size of `time_buffer` in `notifier_format_message`. What `strftime` writes is shorter: with
a year of four digits it is `2026-08-03 17:20:30`. -/
abbrev timeBufferLength : ℕ := 32

/-- A change that is not dropped for its text, where `time(NULL)` returns `now` and the text of
the time is `timeText`: -/
structure AlertChange.NotDropped (now : ℤ) (timeText : Bytes) (change : AlertChange) : Prop where
  /-- its event can be built, and the message of the event fits; -/
  formatted : ∃ event message, alertEventInit now change = some event ∧
    notifierFormatMessage (some timeText) event notifierMessageLength = some message
  /-- if it is to be sent, it is handed to the notifier, which starts on its system calls. -/
  sent : ∀ (ρ : Type) (config : AppConfig), config.notificationEnabled = 1 →
    change.previousLevel ≠ change.currentLevel →
    ∃ event, .notifierSend event config.notificationCommand.cstr ∈
        (sendAlertChangeNotification.{0} (ρ := ρ) config now change).events ∧
      ∀ calls sigpipe, calls.timeText = some timeText → config.notificationCommand.cstr ≠ [] →
        .pipe ∈ (notifierSend calls event config.notificationCommand.cstr sigpipe).events

/-- A change within the bounds that the callers keep. -/
structure AlertChange.Fits (change : AlertChange) : Prop where
  /-- The target. -/
  target : change.target.length < alertEventTargetLength
  /-- The unit. -/
  unit : change.unit.length ≤ 3
  /-- The value. -/
  value : ∃ q, change.currentValue = .finite q ∧ |q| < (10 ^ 31 : ℕ)

/-- An action that notifies no other change. -/
def Action.Fits : Action → Prop
  | .alertChanged change => change.Fits
  | _ => True

variable {ρ : Type} {config : AppConfig} {calls : ProcessCalls} {p p' : MonitoredProcess}

/-! ### The message -/

theorem length_alertMetricToString_le (metric : AlertMetric) :
    (alertMetricToString metric).length ≤ 14 := by
  cases metric <;> decide

namespace AlertChange.Fits

variable {change : AlertChange} {now : ℤ} {timeText : Bytes}

/-- `alert_event_init` finds nothing to refuse. -/
theorem alertEventInit_eq (h : change.Fits) (hnow : now ≠ -1) :
    alertEventInit now change = some ⟨change, now⟩ := by
  have htarget := h.target
  have hunit := h.unit
  unfold alertEventInit
  rw [if_neg (by rw [alertEventUnitLength]; omega), if_neg hnow]

/-- **The message** fits: each of its parts is bounded. -/
theorem exists_message (h : change.Fits) (now : ℤ)
    (htime : timeText.length < timeBufferLength) :
    ∃ message, notifierFormatMessage (some timeText) ⟨change, now⟩ notifierMessageLength =
      some message := by
  obtain ⟨q, hvalue, hq⟩ := h.value
  have h₁ := length_alertMetricToString_le change.metric
  have h₂ := length_alertLevelToString_le change.previousLevel
  have h₃ := length_alertLevelToString_le change.currentLevel
  have h₄ := length_fixed2_le hq
  have htarget := h.target
  have hunit := h.unit
  unfold notifierFormatMessage
  refine ⟨_, (if_neg (by decide)).trans (if_neg ?_)⟩
  simp only [List.length_append, hvalue, notifierMessageLength]
  rw [timeBufferLength] at htime
  rw [alertEventTargetLength] at htarget
  simp only [show (ascii "[EdgeSentinel] ").length = 15 by decide,
    show (ascii " target=").length = 8 by decide, show (ascii " status=").length = 8 by decide,
    show (ascii "->").length = 2 by decide, show (ascii " value=").length = 7 by decide,
    show (ascii " time=").length = 6 by decide]
  omega

/-- What fits is not dropped. -/
theorem notDropped (h : change.Fits) (hnow : now ≠ -1)
    (htime : timeText.length < timeBufferLength) : change.NotDropped now timeText := by
  obtain ⟨message, hmessage⟩ := h.exists_message now htime
  have hinit := h.alertEventInit_eq hnow
  refine ⟨⟨_, message, hinit, hmessage⟩, fun ρ config henabled hchanged => ⟨⟨change, now⟩, ?_, ?_⟩⟩
  · unfold sendAlertChangeNotification
    rw [if_neg (not_not.mpr henabled), if_neg hchanged, hinit]
    simp
  · intro calls sigpipe htext hcommand
    unfold notifierSend
    rw [if_neg hcommand, htext, hmessage]
    simp

end AlertChange.Fits

/-! ### The values -/

/-- A part of something, in percent, is not printed long, even if it is more than all of it. -/
theorem abs_percentage_lt (part whole : UInt64) :
    |(part.toNat : ℚ) / whole.toNat * 100| < (10 ^ 31 : ℕ) := by
  have hpart : (part.toNat : ℚ) < 2 ^ 64 := by exact_mod_cast part.toNat_lt
  have hquotient : (part.toNat : ℚ) / whole.toNat ≤ part.toNat := by
    rcases Nat.eq_zero_or_pos whole.toNat with hzero | hpos
    · rw [hzero, Nat.cast_zero, div_zero]
      positivity
    · exact div_le_self (by positivity) (by exact_mod_cast hpos)
  rw [abs_of_nonneg (by positivity)]
  push_cast
  linarith

/-- The CPU usage of the system. -/
theorem calculateCpuUsage_bounded (previous current : CpuTimes) :
    ∃ q, calculateCpuUsage previous current = .finite q ∧ |q| < (10 ^ 31 : ℕ) := by
  unfold calculateCpuUsage
  dsimp only
  split_ifs
  · exact ⟨0, rfl, by norm_num⟩
  · exact ⟨_, rfl, abs_percentage_lt _ _⟩

/-- The usage of the memory. -/
theorem getMemoryInfo_usagePercent {procMeminfo : Option Bytes} {memory : MemoryInfo}
    (h : getMemoryInfo procMeminfo = some memory) :
    ∃ q, memory.usagePercent = .finite q ∧ |q| < (10 ^ 31 : ℕ) := by
  unfold getMemoryInfo at h
  obtain ⟨file, -, h⟩ := Option.bind_eq_some_iff.mp h
  split at h
  · split_ifs at h
    · obtain rfl := Option.some.inj h
      exact ⟨_, rfl, abs_percentage_lt _ _⟩
    · obtain rfl := Option.some.inj h
      exact ⟨0, rfl, by norm_num⟩
  · cases h

/-- The usage of the disk. -/
theorem getDiskInfo_usagePercent {statvfs : Option Statvfs} {disk : DiskInfo}
    (h : getDiskInfo statvfs = some disk) :
    ∃ q, disk.usagePercent = .finite q ∧ |q| < (10 ^ 31 : ℕ) := by
  obtain ⟨filesystem, -, h⟩ := Option.bind_eq_some_iff.mp h
  obtain rfl := Option.some.inj h
  dsimp only
  split_ifs
  · exact ⟨0, rfl, by norm_num⟩
  · exact ⟨_, rfl, abs_percentage_lt _ _⟩

/-! ### A process -/

/-- The memory is graded only behind the check of the target, and counted in kB of 64 bits. -/
theorem gradeMemory_fits (config : AppConfig) (calls : ProcessCalls) (p : MonitoredProcess) :
    (gradeMemory config calls p).Emits Action.Fits := by
  refine gradeMemory_emits_of (fun _ _ => trivial) (fun _ _ _ => trivial)
    (fun htarget _ _ => ?_) fun _ _ => trivial
  refine ⟨htarget, (by decide : (ascii "MiB").length ≤ 3), _, rfl, ?_⟩
  exact (abs_kilobytes_lt _).trans (by norm_num)

/-- A process that is available behind `readProcess` has passed the check of its target. -/
theorem length_notificationTarget_lt_of_available
    (h : (readProcess config calls p).result = .ok p') (havailable : p'.available = true) :
    (notificationTarget p').length < alertEventTargetLength := by
  unfold readProcess at h
  cases hread : readProcessInfo calls.status p.currentPid with
  | none =>
    rw [hread, result_emit_bind] at h
    obtain rfl := Except.ok.inj h
    cases havailable
  | some info =>
    rw [hread, result_emit_bind] at h
    have hsame := (gradeMemory_yields config calls _).ok _ h
    obtain ⟨⟨⟩, htarget, -⟩ := result_bind_ok.mp h
    unfold notificationTarget
    rw [hsame.info, hsame.currentPid]
    exact result_check_ok.mp htarget

/-- A CPU usage is a number that fits. -/
theorem compareCpuSamples_fits (times : ProcessCpuTimes) (time : Timespec)
    (htarget : (notificationTarget p).length < alertEventTargetLength) :
    (compareCpuSamples config calls times time p).Emits Action.Fits := by
  refine compareCpuSamples_emits_of (fun _ _ _ _ => trivial) ?_
  refine gradeProcessCpu_emits_of (fun _ _ => trivial) (fun _ _ _ => trivial)
    (fun _ _ => ?_) fun _ _ => trivial
  exact ⟨htarget, (by decide : (ascii "%").length ≤ 3), calculateProcessCpuUsage_eq _ _ _ _ _⟩

/-- **A process in a round** notifies nothing that does not fit. -/
theorem monitorProcessOnce_fits (config : AppConfig) (calls : ProcessCalls)
    (p : MonitoredProcess) : (monitorProcessOnce config calls p).Emits Action.Fits := by
  refine .bind ((lookUpProcess_emits calls p).mono ?_) fun p₁ _ => ?_
  · rintro _ ⟨pid, rfl⟩
    trivial
  refine .bind ?_ fun p₂ hp₂ => ?_
  · unfold readProcess
    split
    · exact .emit_bind trivial .pure
    · exact .emit_bind trivial (gradeMemory_fits _ _ _)
  have htarget := length_notificationTarget_lt_of_available hp₂
  refine .bind (monitorProcessCpu_emits_of (fun _ => trivial) (fun _ _ _ => trivial)
    fun havailable times time => compareCpuSamples_fits times time (htarget havailable))
    fun p₃ _ => ?_
  exact .bind (watchAvailability_emits (fun _ _ _ => trivial) _ _ _) fun _ _ =>
    .emit_bind trivial .pure

/-! ### The system -/

theorem gradePercentage_fits {config : AppConfig} {now : ℤ} {metric : AlertMetric} {target : Bytes}
    {percent warning critical : Double} {baseline : LevelBaseline}
    (htarget : target.length < alertEventTargetLength)
    (hpercent : ∃ q, percent = .finite q ∧ |q| < (10 ^ 31 : ℕ)) :
    (gradePercentage config now metric target percent warning critical baseline).Emits
      Action.Fits := by
  refine gradePercentage_emits (fun _ => trivial) (fun _ _ => ?_) fun _ _ => trivial
  exact ⟨htarget, (by decide : (ascii "%").length ≤ 3), hpercent⟩

theorem gradeSystemCpu_fits (calls : RoundCalls) (s : MainState) :
    (gradeSystemCpu calls s).Emits Action.Fits := by
  refine .orStop_bind fun currentCpu => .check_bind (.bind ?_ fun _ _ => .pure)
  exact gradePercentage_fits (by decide) (calculateCpuUsage_bounded _ _)

theorem gradeSystemMemory_fits (calls : RoundCalls) (s : MainState) :
    (gradeSystemMemory calls s).Emits Action.Fits := by
  refine .bind .orStop fun memory hmemory => .bind ?_ fun _ _ => .pure
  exact gradePercentage_fits (by decide) (getMemoryInfo_usagePercent (result_orStop_ok.mp hmemory))

theorem gradeDisk_fits (calls : RoundCalls) (s : MainState) :
    (gradeDisk calls s).Emits Action.Fits := by
  refine .bind .orStop fun disk hdisk => .bind ?_ fun _ _ => .pure
  exact gradePercentage_fits (by decide) (getDiskInfo_usagePercent (result_orStop_ok.mp hdisk))

/-- **The system part of a round** notifies nothing that does not fit. -/
theorem monitorSystem_fits (format : OutputFormat) (calls : RoundCalls) (s : MainState) :
    (monitorSystem format calls s).Emits Action.Fits := by
  refine .bind (gradeSystemCpu_fits calls s) fun _ _ => ?_
  refine .bind (sampleNetwork_emits (fun _ _ _ => trivial) (fun _ _ _ => trivial) _ _)
    fun _ _ => ?_
  refine .bind (gradeSystemMemory_fits calls _) fun _ _ => ?_
  refine .bind (gradeDisk_fits calls _) fun _ _ => ?_
  refine .bind (watchSystemLevel_emits (fun _ _ _ => trivial) calls _ _ _) fun _ _ => ?_
  refine .bind (writePeriodicLog_emits (fun _ _ _ => trivial) calls _ _ _) fun _ _ => ?_
  exact .orStop_bind fun _ => .orStop_bind fun _ => .orStop_bind fun _ => .emit_bind trivial .pure

/-! ### Runs -/

theorem monitorProcesses_fits (calls : RoundCalls) (s : MainState) :
    (monitorProcesses calls s).Emits fun e => e.action.Fits := by
  refine .run (fun s i => .bind ?_ fun _ _ => .pure) s _
  exact .rename (monitorProcessOnce_fits s.config (calls.processes i) (s.processes i))

/-- **A turn of the loop** notifies nothing that does not fit. -/
theorem iteration_fits (format : OutputFormat) (s : MainState) (it : Iteration) :
    (iteration format s it).Emits fun e => e.action.Fits := by
  refine .bind ?_ fun s₁ _ => .bind ?_ fun s₂ _ => ?_
  · unfold reloadIfRequested
    split
    · unfold reload
      split
      · exact .emit_bind trivial .pure
      · exact .emit_bind trivial (.bind (setUpProcesses_emits _ _ _ _ _) fun _ _ =>
          .emit_bind trivial .pure)
    · exact .pure
  · exact monitorProcesses_fits it.round s₁
  · exact .bind (.rename (monitorSystem_fits format it.round s₂)) fun _ _ => .pure

/-- **A run** notifies nothing that does not fit. -/
theorem daemon_fits (format : OutputFormat) (calls : StartCalls) (its : List Iteration) :
    (daemon format calls its).Emits fun e => e.action.Fits := by
  refine .bind ?_ fun s _ => .run (iteration_fits format) s its
  refine .bind (setUpProcesses_emits _ _ _ _ _) fun s₁ _ => .check_bind ?_
  refine .orStop_bind fun previousCpu => .orStop_bind fun previousNetwork =>
    .orStop_bind fun previousNetworkTime => .check_bind ?_
  exact .emit_bind trivial (.check_bind (.emit_bind trivial .pure))

/-- **In every run** no change of a level is dropped for its text: whatever the daemon calls
`send_alert_change_notification` with, `alert_event_init` builds its event and the message fits
its buffer, where `time`, `localtime_r` and `strftime` succeed. -/
theorem notDropped_of_daemon (format : OutputFormat) (calls : StartCalls) (its : List Iteration)
    (source : Source) (change : AlertChange)
    (h : ⟨source, .alertChanged change⟩ ∈ (daemon format calls its).events)
    (now : ℤ) (hnow : now ≠ -1) (timeText : Bytes) (htime : timeText.length < timeBufferLength) :
    change.NotDropped now timeText :=
  have hfits : change.Fits := daemon_fits format calls its _ h
  hfits.notDropped hnow htime

/-- The change that is notified when the memory is used up. -/
def memoryUsedUp : AlertChange :=
  ⟨.systemMemory, ascii "system", .normal, .critical, .finite 100, ascii "%"⟩

/-- It is not dropped. -/
theorem notDropped_memoryUsedUp : memoryUsedUp.NotDropped 0 (ascii "2026-08-03 17:20:30") := by
  have hrun : ⟨.system, .alertChanged memoryUsedUp⟩ ∈
      (daemon .json exhaustingStart exhaustingRounds).events := by
    decide +kernel
  exact notDropped_of_daemon .json exhaustingStart exhaustingRounds .system memoryUsedUp hrun 0
    (by decide) _ (by decide)

end EdgeSentinel.Monitor
