import EdgeSentinel.Monitor.SetUp
import EdgeSentinel.Trace.Watched

/-!
# Alert streams

Five levels are watched for changes: the CPU usage, the memory and the disk of the system,
and the CPU usage and the memory of every process. The source keeps a baseline for each,
in five blocks that are copies of each other, and forgets it on various occasions.

## What is proved

Each stream is a change detector. What a run of the daemon evaluates and notifies for a
stream keeps the protocol of `Detector`, and the state of the detector is the baseline in
the record (`daemon_watched`, and one lemma for every part of the loop). The messages that
are formatted on the way always fit (`length_memoryLogMessage_lt`,
`length_cpuLogMessage_lt`), so a change that was noticed is lost only with the log.

* `notifications_eq_changes` — in every run, between two resets of a stream the changes
  that are notified are the pairs of adjacent levels that differ.
-/

namespace EdgeSentinel.Monitor

open CLib Config Trace Trace.Traced

/-! ### Streams -/

/-- A level that is watched. -/
inductive AlertStream where
  /-- The CPU usage of the system. -/
  | systemCpu
  /-- The memory of the system. -/
  | systemMemory
  /-- The disk. -/
  | disk
  /-- The CPU usage of a process. -/
  | processCpu (i : ProcessIndex)
  /-- The memory of a process. -/
  | processMemory (i : ProcessIndex)
  deriving DecidableEq, Repr

/-- What an action says to a stream with this metric, if it is taken for its source. -/
def observeAction (metric : AlertMetric) : Action → Option (Observation AlertLevel)
  | .reloaded | .found _ | .cpuTimesUnreadable _ => some .reset
  | .unavailable _ => if metric = .processCpu then some .reset else none
  | .evaluated m _ level => if m = metric then some (.value level) else none
  | .alertChanged change =>
    if change.metric = metric then some (.report change.previousLevel change.currentLevel) else none
  | _ => none

namespace AlertStream

/-- Whose level it is. -/
def source : AlertStream → Source
  | .systemCpu | .systemMemory | .disk => .system
  | .processCpu i | .processMemory i => .process i

/-- Which level it is. -/
def metric : AlertStream → AlertMetric
  | .systemCpu => .systemCpu
  | .systemMemory => .systemMemory
  | .disk => .disk
  | .processCpu _ => .processCpu
  | .processMemory _ => .processMemory

/-- What an event says to the stream. A reload resets them all. -/
def observe (stream : AlertStream) (e : Event) : Option (Observation AlertLevel) :=
  if e.action = .reloaded then some .reset
  else if e.source = stream.source then observeAction stream.metric e.action
  else none

/-- What a run says to the stream. The start is a reset. -/
def observations (stream : AlertStream) (events : List Event) : List (Observation AlertLevel) :=
  .reset :: events.filterMap stream.observe

end AlertStream

/-- The level of a process that was seen last. -/
def MonitoredProcess.seen (p : MonitoredProcess) : AlertMetric → Option AlertLevel
  | .processCpu => p.cpuBaseline.seen
  | .processMemory => p.memoryBaseline.seen
  | _ => none

/-- The level of the system that was seen last. -/
def MainState.seen (s : MainState) : AlertMetric → Option AlertLevel
  | .systemCpu => s.cpuBaseline.seen
  | .systemMemory => s.memoryBaseline.seen
  | .disk => s.diskBaseline.seen
  | _ => none

/-- The level of a stream that was seen last. A process that is not in use has none. -/
def AlertStream.seen (stream : AlertStream) (s : MainState) : Option AlertLevel :=
  match stream.source with
  | .system => s.seen stream.metric
  | .process i => if i.val < s.processCount then (s.processes i).seen stream.metric else none

/-! ### Levels -/

variable {ρ : Type} {metric own : AlertMetric} {config : AppConfig} {s s' : MainState}
  {format : OutputFormat} {b : Option AlertLevel}

/-- The state of a detector that has seen `b` last, after a level of the metric `own`. -/
def afterLevel (metric own : AlertMetric) (b : Option AlertLevel) (level : AlertLevel) :
    Detector AlertLevel :=
  if own = metric then .afterValue b level else .settled b

/-- A level that is evaluated. -/
theorem evaluated_bind_watched {β : Type} {E : ρ → Prop} {value : Double} {level : AlertLevel}
    {f : PUnit → Traced Action ρ β} {R : β → Detector AlertLevel → Prop}
    (hf : Watched (observeAction metric) (afterLevel metric own b level) (f ⟨⟩) R E) :
    Watched (observeAction metric) (.settled b) (emit (.evaluated own value level) >>= f) R E := by
  unfold afterLevel at hf
  split_ifs at hf with h
  · exact .emit_bind (if_pos h) (Detector.step_value _ _) hf
  · exact .emit_bind_silent (if_neg h) hf

/-- A level that was evaluated is compared with the baseline, and a change is reported. -/
theorem watchLevel_watched {E : ρ → Prop} {baseline : LevelBaseline} {level : AlertLevel}
    {changed : AlertLevel → Traced Action ρ PUnit} (hb : own = metric → b = baseline.seen)
    (hown : own = metric → ∀ previous, Watched (observeAction metric)
      ⟨some level, some (previous, level)⟩ (changed previous)
      (fun _ d => d = .settled (some level)) E)
    (hother : own ≠ metric → ∀ previous, Watched (observeAction metric) (.settled b)
      (changed previous) (fun _ d => d = .settled b) E) :
    Watched (observeAction metric) (afterLevel metric own b level)
      (watchLevel baseline level changed)
      (fun b' d => d = .settled (if own = metric then b'.seen else b)) E := by
  obtain ⟨previous, initialized⟩ := baseline
  by_cases hm : own = metric
  · rw [hb hm]
    simp only [afterLevel, if_pos hm]
    cases initialized with
    | false => exact .pure rfl
    | true =>
      unfold watchLevel
      rw [if_neg (by simp)]
      by_cases hl : level = previous
      · subst hl
        simp only [ne_eq, not_true_eq_false, if_false, LevelBaseline.seen, if_true,
          Detector.afterValue]
        exact .pure rfl
      · have hafter : Detector.afterValue (LevelBaseline.seen ⟨previous, true⟩) level =
            ⟨some level, some (previous, level)⟩ := if_neg fun he => hl he.symm
        rw [if_pos hl, hafter]
        exact .bind (hown hm previous) fun _ d hd => .pure hd
  · simp only [afterLevel, if_neg hm]
    unfold watchLevel
    split_ifs
    · exact .bind (hother hm _) fun _ d hd => .pure hd
    · exact .pure rfl
    · exact .pure rfl

/-- A notification reports the change that is owed. -/
theorem sendAlertChangeNotification_watched {E : ρ → Prop} (now : ℤ) (change : AlertChange)
    (h : change.metric = metric) :
    Watched (observeAction metric)
      ⟨some change.currentLevel, some (change.previousLevel, change.currentLevel)⟩
      (sendAlertChangeNotification config now change)
      (fun _ d => d = .settled (some change.currentLevel)) E := by
  refine .emit_bind (o := .report change.previousLevel change.currentLevel) (if_pos h)
    (Detector.step_report _ _) ?_
  split_ifs
  · exact .pure rfl
  · exact .pure rfl
  · split
    · exact .pure rfl
    · exact .emit_silent rfl rfl

/-- A notification of another metric. -/
theorem sendAlertChangeNotification_silent {E : ρ → Prop} (now : ℤ) (change : AlertChange)
    (h : change.metric ≠ metric) :
    Watched (observeAction metric) (.settled b) (sendAlertChangeNotification config now change)
      (fun _ d => d = .settled b) E := by
  refine .emit_bind_silent (if_neg h) ?_
  split_ifs
  · exact .pure rfl
  · exact .pure rfl
  · split
    · exact .pure rfl
    · exact .emit_silent rfl rfl

theorem writeLog_watched {E : ρ → Prop} {d : Detector AlertLevel} {call : LogCall}
    {level message : Bytes} {written : Bool} {failure : ρ}
    (h : E failure ∨ ∃ b, d = .settled b) :
    Watched (observeAction metric) d (writeLog config call level message written failure)
      (fun _ d' => d' = d) E :=
  .emit_bind_silent rfl (.check (fun _ => rfl) fun _ => h)

/-- Grading a percentage of the system keeps the protocol of its own stream, and says nothing
to the others. -/
theorem gradePercentage_watched {E : Exit → Prop} (now : ℤ) (own : AlertMetric) (target : Bytes)
    (percent warning critical : Double) {baseline : LevelBaseline}
    (hb : own = metric → b = baseline.seen) :
    Watched (observeAction metric) (.settled b)
      (gradePercentage config now own target percent warning critical baseline)
      (fun r d => d = .settled (if own = metric then r.2.seen else b)) E :=
  evaluated_bind_watched (.bind (watchLevel_watched hb
    (fun hm previous => sendAlertChangeNotification_watched now
      ⟨own, target, previous, _, percent, ascii "%"⟩ hm)
    fun hm _ => sendAlertChangeNotification_silent now _ hm) fun _ _ hd => .pure hd)

/-! ### The system -/

/-- The part of a round for the system keeps the protocol of each of its streams. -/
theorem gradeSystemCpu_watched {E : Exit → Prop} (calls : RoundCalls) (s : MainState) :
    Watched (observeAction metric) (.settled (s.seen metric)) (gradeSystemCpu calls s)
      (fun r d => d = .settled (r.2.2.2.seen metric)) E := by
  refine .orStop_bind (fun _ _ => .check_bind (fun _ => ?_) fun _ => .inr ⟨_, rfl⟩)
    fun _ => .inr ⟨_, rfl⟩
  refine .bind (gradePercentage_watched _ _ _ _ _ _ fun h => h ▸ rfl) ?_
  rintro ⟨level, baseline⟩ d rfl
  refine .pure ?_
  cases metric <;> rfl

theorem sampleNetwork_watched {E : Exit → Prop} (calls : RoundCalls) (s : MainState) :
    Watched (observeAction metric) (.settled (s.seen metric)) (sampleNetwork calls s)
      (fun r d => d = .settled (r.2.seen metric)) E := by
  refine .orStop_bind (fun network _ => .orStop_bind (fun time _ => .emit_bind_silent rfl ?_)
    fun _ => .inr ⟨_, rfl⟩) fun _ => .inr ⟨_, rfl⟩
  refine .bind (Q := fun r d => d = .settled (r.2.seen metric)) ?_ ?_
  · unfold measureNetworkSpeed
    split_ifs
    · exact .pure (by cases metric <;> rfl)
    · exact .emit_bind_silent rfl (.orStop_bind (fun _ _ => .pure (by cases metric <;> rfl))
        fun _ => .inr ⟨_, rfl⟩)
  · rintro ⟨speed, s'⟩ d rfl
    exact .orStop_bind (fun _ _ => .orStop_bind (fun _ _ => .pure rfl) fun _ => .inr ⟨_, rfl⟩)
      fun _ => .inr ⟨_, rfl⟩

theorem gradeSystemMemory_watched {E : Exit → Prop} (calls : RoundCalls) (s : MainState) :
    Watched (observeAction metric) (.settled (s.seen metric)) (gradeSystemMemory calls s)
      (fun r d => d = .settled (r.2.2.seen metric)) E := by
  refine .orStop_bind (fun _ _ => ?_) fun _ => .inr ⟨_, rfl⟩
  refine .bind (gradePercentage_watched _ _ _ _ _ _ fun h => h ▸ rfl) ?_
  rintro ⟨level, baseline⟩ d rfl
  refine .pure ?_
  cases metric <;> rfl

theorem gradeDisk_watched {E : Exit → Prop} (calls : RoundCalls) (s : MainState) :
    Watched (observeAction metric) (.settled (s.seen metric)) (gradeDisk calls s)
      (fun r d => d = .settled (r.2.2.seen metric)) E := by
  refine .orStop_bind (fun _ _ => ?_) fun _ => .inr ⟨_, rfl⟩
  refine .bind (gradePercentage_watched _ _ _ _ _ _ fun h => h ▸ rfl) ?_
  rintro ⟨level, baseline⟩ d rfl
  refine .pure ?_
  cases metric <;> rfl

theorem watchSystemLevel_watched {E : Exit → Prop} (calls : RoundCalls) (level : AlertLevel)
    (percentages : Bytes) (s : MainState) :
    Watched (observeAction metric) (.settled (s.seen metric))
      (watchSystemLevel calls level percentages s)
      (fun s' d => d = .settled (s'.seen metric)) E := by
  refine .bind (Q := fun _ d => d = .settled (s.seen metric)) ?_ fun baseline d hd =>
    .pure (hd.trans (by cases metric <;> rfl))
  unfold watchLevel
  split_ifs
  · refine .bind (Q := fun _ d => d = .settled (s.seen metric)) ?_ fun _ d hd => .pure hd
    exact .check_bind (fun _ => writeLog_watched (.inr ⟨_, rfl⟩)) fun _ => .inr ⟨_, rfl⟩
  · exact .pure rfl
  · exact .pure rfl

theorem writePeriodicLog_watched {E : Exit → Prop} (calls : RoundCalls) (level : AlertLevel)
    (percentages : Bytes) (s : MainState) :
    Watched (observeAction metric) (.settled (s.seen metric))
      (writePeriodicLog calls level percentages s)
      (fun s' d => d = .settled (s'.seen metric)) E := by
  unfold writePeriodicLog
  split_ifs
  · exact .bind (writeLog_watched (.inr ⟨_, rfl⟩)) fun _ d hd =>
      .pure (hd.trans (by cases metric <;> rfl))
  · exact .pure (by cases metric <;> rfl)

/-- **The system part of a round** keeps the protocol of every stream of the system. -/
theorem monitorSystem_watched {E : Exit → Prop} (format : OutputFormat) (calls : RoundCalls)
    (s : MainState) :
    Watched (observeAction metric) (.settled (s.seen metric)) (monitorSystem format calls s)
      (fun r d => d = .settled (r.2.seen metric)) E := by
  refine .bind (gradeSystemCpu_watched calls s) ?_
  rintro ⟨currentCpu, cpuUsage, cpuLevel, s₁⟩ d rfl
  refine .bind (sampleNetwork_watched calls s₁) ?_
  rintro ⟨network, s₂⟩ d rfl
  refine .bind (gradeSystemMemory_watched calls s₂) ?_
  rintro ⟨memory, memoryLevel, s₃⟩ d rfl
  refine .bind (gradeDisk_watched calls s₃) ?_
  rintro ⟨disk, diskLevel, s₄⟩ d rfl
  refine .bind (watchSystemLevel_watched calls _ _ s₄) ?_
  rintro s₅ d rfl
  refine .bind (writePeriodicLog_watched calls _ _ s₅) ?_
  rintro s₆ d rfl
  refine .orStop_bind (fun _ _ => .orStop_bind (fun _ _ => .orStop_bind (fun _ _ => ?_)
    fun _ => .inr ⟨_, rfl⟩) fun _ => .inr ⟨_, rfl⟩) fun _ => .inr ⟨_, rfl⟩
  exact .emit_bind_silent rfl (.pure rfl)

theorem Action.OfLevel.ne_reloaded {e : Action} (h : e.OfLevel metric) : e ≠ .reloaded := by
  rintro rfl
  exact h

/-! ### A process -/

/-- A change that was noticed was lost with the record of the log. -/
def MonitorFailure.LosesChange : MonitorFailure → Prop
  | .memoryLogWrite | .cpuLogWrite => True
  | _ => False

theorem length_alertLevelToString_le (level : AlertLevel) :
    (alertLevelToString level).length ≤ 8 := by
  cases level <;> decide

theorem length_decimalInt_pid_le (pid : Int32) : (decimalInt pid.toInt).length ≤ 11 := by
  refine length_decimalInt_le (by omega) ?_
  have h₁ := pid.toInt_lt
  have h₂ := pid.le_toInt
  omega

/-- 64 bits of kB, in MiB. -/
theorem abs_kilobytes_lt (kb : UInt64) : |((kb.toNat : ℚ) / 1024)| < (10 ^ 20 : ℕ) := by
  have hkb : (kb.toNat : ℚ) < 2 ^ 64 := by exact_mod_cast kb.toNat_lt
  rw [abs_of_nonneg (by positivity)]
  push_cast
  linarith

/-- The message of a change of a memory level fits. -/
theorem length_memoryLogMessage_lt (previous level : AlertLevel) (pid : Int32) (kb : UInt64) :
    (memoryLogMessage previous level pid (.finite ((kb.toNat : ℚ) / 1024))).length <
      logMessageSize := by
  have h₁ := length_alertLevelToString_le previous
  have h₂ := length_alertLevelToString_le level
  have h₃ := length_decimalInt_pid_le pid
  have h₄ := length_fixed2_le (abs_kilobytes_lt kb)
  simp only [memoryLogMessage, List.length_append, logMessageSize]
  simp only [show (ascii "Process memory status changed: ").length = 31 by decide,
    show (ascii " -> ").length = 4 by decide, show (ascii " PID=").length = 5 by decide,
    show (ascii " Memory=").length = 8 by decide, show (ascii " MiB").length = 4 by decide]
  omega

/-- Time that passes between two readings of the clock is at least a nanosecond. -/
theorem le_calculateElapsedSeconds {start stop : Timespec}
    (h : 0 < calculateElapsedSeconds start stop) :
    1 / 1000000000 ≤ calculateElapsedSeconds start stop := by
  have heq : calculateElapsedSeconds start stop =
      ((1000000000 * (stop.sec - start.sec) + (stop.nsec - start.nsec) : ℤ) : ℚ) / 1000000000 := by
    unfold calculateElapsedSeconds
    push_cast
    ring
  rw [heq] at h ⊢
  rw [div_pos_iff_of_pos_right (by norm_num)] at h
  rw [div_le_div_iff_of_pos_right (by norm_num)]
  exact_mod_cast h

/-- A CPU usage is a number that is not printed long. -/
theorem calculateProcessCpuUsage_eq (ticksPerSecond : ℤ) (previous current : ProcessCpuTimes)
    (start stop : Timespec) :
    ∃ q, calculateProcessCpuUsage ticksPerSecond previous current
      (calculateElapsedSeconds start stop) = .finite q ∧ |q| < (10 ^ 31 : ℕ) := by
  unfold calculateProcessCpuUsage
  dsimp only
  split_ifs with helapsed hticks hclk
  · exact ⟨-1, rfl, by norm_num⟩
  · exact ⟨-1, rfl, by norm_num⟩
  · exact ⟨-1, rfl, by norm_num⟩
  · refine ⟨_, rfl, ?_⟩
    generalize current.userTicks + current.systemTicks - (previous.userTicks +
      previous.systemTicks) = delta
    have hdelta : (delta.toNat : ℚ) < 2 ^ 64 := by exact_mod_cast delta.toNat_lt
    have hclk : (1 : ℚ) ≤ ticksPerSecond := by
      have : 1 ≤ ticksPerSecond := by omega
      exact_mod_cast this
    have hpos : 0 < calculateElapsedSeconds start stop := not_le.mp helapsed
    have hnano := le_calculateElapsedSeconds hpos
    rw [abs_of_nonneg (by positivity)]
    calc (delta.toNat : ℚ) / ticksPerSecond / calculateElapsedSeconds start stop * 100
        ≤ delta.toNat / 1 / (1 / 1000000000) * 100 := by gcongr
      _ < 2 ^ 64 / 1 / (1 / 1000000000) * 100 := by gcongr
      _ ≤ (10 ^ 31 : ℕ) := by norm_num

/-- The message of a change of a CPU level fits. -/
theorem length_cpuLogMessage_lt (previous level : AlertLevel) (pid : Int32) {q : ℚ}
    (hq : |q| < (10 ^ 31 : ℕ)) :
    (cpuLogMessage previous level pid (.finite q)).length < logMessageSize := by
  have h₁ := length_alertLevelToString_le previous
  have h₂ := length_alertLevelToString_le level
  have h₃ := length_decimalInt_pid_le pid
  have h₄ := length_fixed2_le hq
  simp only [cpuLogMessage, List.length_append, logMessageSize]
  simp only [show (ascii "Process CPU status changed: ").length = 28 by decide,
    show (ascii " -> ").length = 4 by decide, show (ascii " PID=").length = 5 by decide,
    show (ascii " CPU=").length = 5 by decide, show (ascii "%").length = 1 by decide]
  omega

/-- A level of a process that was evaluated: a change is logged and notified. -/
theorem watchProcessLevel_watched {baseline : LevelBaseline} {level : AlertLevel}
    {message : AlertLevel → Bytes} {change : AlertLevel → AlertChange} {call : LogCall}
    {written : Bool} {now : ℤ} {formatFailure writeFailure : MonitorFailure}
    (hb : own = metric → b = baseline.seen)
    (hfits : ∀ previous, (message previous).length < logMessageSize)
    (hloses : writeFailure.LosesChange)
    (hchange : ∀ previous, (change previous).metric = own ∧
      (change previous).previousLevel = previous ∧ (change previous).currentLevel = level) :
    Watched (observeAction metric) (afterLevel metric own b level)
      (watchLevel baseline level fun previous => do
        check formatFailure ((message previous).length < logMessageSize)
        writeLog config call (alertLevelToString level) (message previous) written writeFailure
        sendAlertChangeNotification config now (change previous))
      (fun b' d => d = .settled (if own = metric then b'.seen else b))
      MonitorFailure.LosesChange := by
  refine watchLevel_watched hb (fun hm previous => ?_) fun hm previous => ?_
  · obtain ⟨hmetric, hprevious, hlevel⟩ := hchange previous
    refine .check_bind (fun _ => ?_) fun h => absurd (hfits previous) h
    refine .bind (writeLog_watched (.inl hloses)) ?_
    rintro - d rfl
    have hsend := (sendAlertChangeNotification_watched now (change previous)
      (hmetric.trans hm) : Watched _ _ (sendAlertChangeNotification config _ _) _
        MonitorFailure.LosesChange)
    rwa [hprevious, hlevel] at hsend
  · refine .check_bind (fun _ => ?_) fun _ => .inr ⟨_, rfl⟩
    refine .bind (writeLog_watched (.inl hloses)) ?_
    rintro - d rfl
    exact sendAlertChangeNotification_silent now _ fun h => hm ((hchange previous).1.symm.trans h)

/-- A new PID is a new process, of which no level has been seen. -/
theorem lookUpProcess_watched {E : MonitorFailure → Prop} (calls : ProcessCalls)
    (p : MonitoredProcess) :
    Watched (observeAction metric) (.settled (p.seen metric)) (lookUpProcess calls p)
      (fun p' d => d = .settled (p'.seen metric)) E := by
  unfold lookUpProcess
  split_ifs
  · split
    · exact .pure rfl
    · exact .emit_bind rfl (Detector.step_reset _) (.pure (by cases metric <;> rfl))
  · exact .pure rfl

/-- Grading the memory of a process. -/
theorem gradeMemory_watched (calls : ProcessCalls) (p : MonitoredProcess) :
    Watched (observeAction metric) (.settled (p.seen metric)) (gradeMemory config calls p)
      (fun p' d => p'.available = p.available ∧ d = .settled (p'.seen metric))
      MonitorFailure.LosesChange := by
  refine .check_bind (fun _ => evaluated_bind_watched ?_) fun _ => .inr ⟨_, rfl⟩
  refine .bind (watchProcessLevel_watched (fun h => h ▸ rfl)
    (fun previous => length_memoryLogMessage_lt previous _ _ _) trivial
    fun _ => ⟨rfl, rfl, rfl⟩) ?_
  rintro baseline d rfl
  exact .pure ⟨rfl, by cases metric <;> rfl⟩

/-- What is known of the level of a process between the reading of the process and that of
its CPU times: an unavailable one has no CPU usage. -/
def MonitoredProcess.seenIfAvailable (p : MonitoredProcess) (metric : AlertMetric) :
    Option AlertLevel :=
  if metric = .processCpu ∧ ¬ p.available then none else p.seen metric

theorem readProcess_watched (calls : ProcessCalls) (p : MonitoredProcess) :
    Watched (observeAction metric) (.settled (p.seen metric)) (readProcess config calls p)
      (fun p' d => d = .settled (p'.seenIfAvailable metric)) MonitorFailure.LosesChange := by
  unfold readProcess
  cases readProcessInfo calls.status p.currentPid with
  | none =>
    by_cases hm : metric = .processCpu
    · subst hm
      exact .emit_bind rfl (Detector.step_reset _) (.pure rfl)
    · refine .emit_bind_silent (if_neg hm) (.pure ?_)
      rw [MonitoredProcess.seenIfAvailable, if_neg fun h => hm h.1]
      cases metric <;> rfl
  | some info =>
    refine .emit_bind_silent rfl ?_
    have hseen : p.seen metric =
        MonitoredProcess.seen { p with info := info, available := true } metric := by
      cases metric <;> rfl
    rw [hseen]
    refine (gradeMemory_watched calls _).mono ?_ fun _ => id
    rintro p' d ⟨havail, rfl⟩
    rw [MonitoredProcess.seenIfAvailable, if_neg fun h => h.2 havail]

/-- Grading the CPU usage of a process. -/
theorem gradeProcessCpu_watched (calls : ProcessCalls) {p : MonitoredProcess} {q : ℚ}
    (hq : p.cpuUsage = .finite q) (hlt : |q| < (10 ^ 31 : ℕ)) :
    Watched (observeAction metric) (.settled (p.seen metric)) (gradeProcessCpu config calls p)
      (fun p' d => d = .settled (p'.seen metric)) MonitorFailure.LosesChange := by
  refine evaluated_bind_watched (.bind (watchProcessLevel_watched (fun h => h ▸ rfl)
    (fun previous => ?_) trivial fun _ => ⟨rfl, rfl, rfl⟩) ?_)
  · rw [hq]
    exact length_cpuLogMessage_lt _ _ _ hlt
  · rintro baseline d rfl
    exact .pure (by cases metric <;> rfl)

theorem compareCpuSamples_watched (calls : ProcessCalls) (times : ProcessCpuTimes)
    (time : Timespec) (p : MonitoredProcess) :
    Watched (observeAction metric) (.settled (p.seen metric))
      (compareCpuSamples config calls times time p)
      (fun p' d => d = .settled (p'.seen metric)) MonitorFailure.LosesChange := by
  unfold compareCpuSamples
  split_ifs
  · refine .emit_bind_silent rfl ?_
    obtain ⟨q, hq, hlt⟩ := calculateProcessCpuUsage_eq calls.ticksPerSecond p.previousCpuTimes
      times p.previousCpuSampleTime time
    rw [hq]
    have hseen : p.seen metric = MonitoredProcess.seen { p with cpuUsage := .finite q } metric := by
      cases metric <;> rfl
    rw [hseen]
    dsimp only
    split_ifs
    · exact gradeProcessCpu_watched calls rfl hlt
    · exact .pure rfl
  · exact .pure (by cases metric <;> rfl)

/-- The CPU usage of a process, if there is one. If the CPU times cannot be read, neither
level is known any more. -/
theorem monitorProcessCpu_watched (calls : ProcessCalls) (p : MonitoredProcess) :
    Watched (observeAction metric) (.settled (p.seenIfAvailable metric))
      (monitorProcessCpu config calls p)
      (fun p' d => d = .settled (p'.seen metric)) MonitorFailure.LosesChange := by
  unfold monitorProcessCpu MonitoredProcess.seenIfAvailable
  by_cases havail : p.available = true
  · rw [if_pos havail, if_neg fun h => h.2 havail]
    unfold sampleProcessCpu
    cases readProcessCpuTimes calls.stat p.currentPid with
    | none => exact .emit_bind rfl (Detector.step_reset _) (.pure (by cases metric <;> rfl))
    | some times =>
      refine .orStop_bind (fun time _ => .emit_bind_silent rfl ?_) fun _ => .inr ⟨_, rfl⟩
      exact .bind (compareCpuSamples_watched calls times time p) fun p' d hd =>
        .pure (hd.trans (by cases metric <;> rfl))
  · rw [if_neg havail]
    refine .pure ?_
    cases metric with
    | processCpu => rw [if_pos ⟨rfl, havail⟩]; rfl
    | _ => rfl

theorem watchAvailability_watched (calls : ProcessCalls) (p : MonitoredProcess) :
    Watched (observeAction metric) (.settled (p.seen metric)) (watchAvailability config calls p)
      (fun p' d => d = .settled (p'.seen metric)) MonitorFailure.LosesChange := by
  unfold watchAvailability
  split_ifs
  · refine .check_bind (fun _ => .bind (writeLog_watched (.inr ⟨_, rfl⟩)) fun _ d hd => ?_)
      fun _ => .inr ⟨_, rfl⟩
    exact .pure (hd.trans (by cases metric <;> rfl))
  · exact .pure rfl
  · exact .pure (by cases metric <;> rfl)

/-- **A process in a round** keeps the protocol of both of its streams. -/
theorem monitorProcessOnce_watched (calls : ProcessCalls) (p : MonitoredProcess) :
    Watched (observeAction metric) (.settled (p.seen metric)) (monitorProcessOnce config calls p)
      (fun p' d => d = .settled (p'.seen metric)) MonitorFailure.LosesChange := by
  refine .bind (lookUpProcess_watched calls p) ?_
  rintro p₁ d rfl
  refine .bind (readProcess_watched calls p₁) ?_
  rintro p₂ d rfl
  have hseen : p₂.seenIfAvailable metric =
      MonitoredProcess.seenIfAvailable { p₂ with cpuUsageValid := false } metric := by
    cases metric <;> rfl
  rw [hseen]
  refine .bind (monitorProcessCpu_watched calls _) ?_
  rintro p₃ d rfl
  refine .bind (watchAvailability_watched calls p₃) ?_
  rintro p₄ d rfl
  exact .emit_bind_silent rfl (.pure rfl)

/-- Monitoring a process is no reload. -/
theorem monitorProcessOnce_emits (config : AppConfig) (calls : ProcessCalls)
    (p : MonitoredProcess) :
    (monitorProcessOnce config calls p).Emits fun e => e ≠ .reloaded := by
  refine .bind ((lookUpProcess_emits calls p).mono fun e he => ?_) fun p₁ _ => ?_
  · obtain ⟨pid, rfl⟩ := he
    simp
  refine .bind ?_ fun p₂ _ => ?_
  · unfold readProcess
    split
    · exact .emit_bind (by simp) .pure
    · exact .emit_bind (by simp)
        ((gradeMemory_emits config calls _).mono fun _ => Action.OfLevel.ne_reloaded)
  refine .bind ((monitorProcessCpu_emits config calls _).mono fun e he => ?_) fun p₃ _ => ?_
  · rintro rfl
    exact he
  refine .bind (watchAvailability_emits (by simp) config calls p₃) fun p₄ _ => ?_
  exact .emit_bind (by simp) .pure

/-! ### Runs -/

/-- The reasons for which a change that was noticed is lost. -/
def Exit.LosesChange : Exit → Prop
  | .process _ failure => failure.LosesChange
  | _ => False

/-- What the source of a stream does. -/
theorem observe_own (stream : AlertStream) (action : Action) :
    stream.observe ⟨stream.source, action⟩ = observeAction stream.metric action := by
  unfold AlertStream.observe
  by_cases h : action = .reloaded
  · subst h
    rfl
  · rw [if_neg h, if_pos rfl]

/-- What another source does, a reload apart. -/
theorem observe_other {stream : AlertStream} {source : Source} (hs : source ≠ stream.source)
    {action : Action} (h : action ≠ .reloaded) : stream.observe ⟨source, action⟩ = none := by
  unfold AlertStream.observe
  rw [if_neg h, if_neg hs]

/-- The record of its process is what a stream goes by. -/
theorem seen_setProcess_own {stream : AlertStream} {i : ProcessIndex} (p : MonitoredProcess)
    (h : stream.source = .process i) (hi : i.val < s.processCount) :
    stream.seen { s with activeProcess := i, processes := Function.update s.processes i p } =
      p.seen stream.metric := by
  unfold AlertStream.seen
  rw [h]
  show (if i.val < s.processCount then (Function.update s.processes i p i).seen _ else none) = _
  rw [if_pos hi, Function.update_self]

/-- The record of another process is nothing to it. -/
theorem seen_setProcess_other {stream : AlertStream} {i : ProcessIndex} (p : MonitoredProcess)
    (h : stream.source ≠ .process i) :
    stream.seen { s with activeProcess := i, processes := Function.update s.processes i p } =
      stream.seen s := by
  unfold AlertStream.seen
  cases hs : stream.source with
  | system => cases stream.metric <;> rfl
  | process j =>
    have hji : j ≠ i := fun he => h (by rw [hs, he])
    show (if j.val < s.processCount then (Function.update s.processes i p j).seen _ else none) = _
    rw [Function.update_of_ne hji]

variable (stream : AlertStream)

/-- A turn of the loop over the processes. -/
theorem monitorProcess_watched (calls : RoundCalls) {i : ProcessIndex}
    (hi : i.val < s.processCount) :
    Watched stream.observe (.settled (stream.seen s)) (monitorProcess calls s i)
      (fun s' d => s'.processCount = s.processCount ∧ d = .settled (stream.seen s'))
      Exit.LosesChange := by
  by_cases hstream : stream.source = .process i
  · refine .bind (.rename ?_) (Q := fun p d => d = .settled (p.seen stream.metric)) ?_
    · have hseen : stream.seen s = (s.processes i).seen stream.metric := by
        unfold AlertStream.seen
        rw [hstream]
        exact if_pos hi
      rw [← hstream, hseen]
      simp only [observe_own]
      exact monitorProcessOnce_watched _ _
    · rintro p d rfl
      exact .pure ⟨rfl, by rw [seen_setProcess_own p hstream hi]⟩
  · refine .bind (.rename (.of_silent (Q := fun _ => True) ?_ ⟨fun _ _ => trivial,
      fun _ _ => trivial⟩)) ?_
    · exact (monitorProcessOnce_emits _ _ _).mono fun e he => observe_other (Ne.symm hstream) he
    · rintro p d ⟨-, rfl⟩
      exact .pure ⟨rfl, by rw [seen_setProcess_other p hstream]⟩

theorem monitorProcesses_watched (calls : RoundCalls) (s : MainState) :
    Watched stream.observe (.settled (stream.seen s)) (monitorProcesses calls s)
      (fun s' d => s'.processCount = s.processCount ∧ d = .settled (stream.seen s'))
      Exit.LosesChange := by
  refine .run ?_ ⟨rfl, rfl⟩
  rintro s₁ d i hi ⟨hcount, rfl⟩
  refine (monitorProcess_watched stream calls ?_).mono ?_ fun _ => id
  · exact hcount ▸ mem_processIndices.mp hi
  · rintro s₂ d ⟨hcount', rfl⟩
    exact ⟨hcount'.trans hcount, rfl⟩

/-- The level of a stream goes by the processes and the baselines of the system. -/
theorem seen_congr {stream : AlertStream} (hcount : s'.processCount = s.processCount)
    (hprocess : ∀ i metric, (s'.processes i).seen metric = (s.processes i).seen metric)
    (hsystem : ∀ metric, s'.seen metric = s.seen metric) : stream.seen s' = stream.seen s := by
  unfold AlertStream.seen
  rw [hcount]
  cases stream.source with
  | system => exact hsystem _
  | process i => simp only [hprocess]

/-- Neither the output nor the clean-up forgets a level. -/
theorem seen_forgetUnavailable_afterOutput (s : MainState) :
    stream.seen (forgetUnavailable (afterOutput format s)) = stream.seen s := by
  obtain ⟨i, houtput⟩ := afterOutput_eq format s
  rw [houtput]
  refine seen_congr (forgetUnavailable_processCount _) (fun i metric => ?_) fun metric => ?_
  · rw [forgetUnavailable_processes]
    unfold forgetIf
    split_ifs
    · cases metric <;> rfl
    · rfl
  · unfold forgetUnavailable
    split_ifs <;> cases metric <;> rfl

/-- **A round** keeps the protocol of every stream. -/
theorem round_watched (calls : RoundCalls) (s : MainState) :
    Watched stream.observe (.settled (stream.seen s)) (round format calls s)
      (fun s' d => d = .settled (stream.seen s')) Exit.LosesChange := by
  refine .bind (monitorProcesses_watched stream calls s) ?_
  rintro s₁ d ⟨-, rfl⟩
  refine .bind (Q := fun r d => d = .settled (stream.seen r.2)) (.rename ?_) ?_
  · by_cases hstream : stream.source = .system
    · have hseen : ∀ s, stream.seen s = s.seen stream.metric := by
        intro s
        unfold AlertStream.seen
        rw [hstream]
      rw [← hstream]
      simp only [observe_own, hseen]
      exact monitorSystem_watched format calls s₁
    · refine .mono (.of_silent ((monitorSystem_emits format calls s₁).mono fun e he =>
        observe_other (Ne.symm hstream) (by rintro rfl; exact he))
          ((monitorSystem_yields format calls s₁).mono (fun _ h => h) fun _ _ => trivial)) ?_ fun _ => id
      rintro ⟨currentCpu, s₂⟩ d ⟨hsame, rfl⟩
      unfold AlertStream.seen
      cases hs : stream.source with
      | system => exact absurd hs hstream
      | process i =>
        dsimp only
        rw [hsame.processCount, hsame.processes]
  · rintro ⟨currentCpu, s₂⟩ d rfl
    refine .pure ?_
    have hseen : stream.seen (forgetUnavailable (afterOutput format s₂)) = stream.seen s₂ :=
      seen_forgetUnavailable_afterOutput stream s₂
    rw [← hseen]
    exact congrArg _ (seen_congr rfl (fun _ _ => rfl) fun metric => by cases metric <;> rfl).symm

/-- No level has been seen of what was just set up. -/
theorem seen_of_setUp {scans : ProcessIndex → ProcFs} {getpid : Int32}
    (hprocesses : s'.processes = (setUp config scans getpid s).processes)
    (hcount : s'.processCount = monitoredProcessCount config)
    (hsystem : ∀ metric, s'.seen metric = none) : stream.seen s' = none := by
  unfold AlertStream.seen
  cases stream.source with
  | system => exact hsystem _
  | process i =>
    dsimp only
    rw [hcount, hprocesses]
    split_ifs with hi
    · show (if i.val < monitoredProcessCount config then _ else _ : MonitoredProcess).seen _ = none
      rw [if_pos hi]
      cases stream.metric <;> rfl
    · rfl

theorem seen_appliedReload (calls : ReloadCalls) (s : MainState) :
    stream.seen (appliedReload calls s) = none := by
  refine seen_of_setUp stream rfl rfl fun metric => ?_
  cases metric <;> rfl

/-- A reload that is applied resets every stream; one that fails leaves them alone. -/
theorem reload_watched (calls : ReloadCalls) (s : MainState) :
    Watched stream.observe (.settled (stream.seen s)) (reload calls s)
      (fun s' d => d = .settled (stream.seen s')) Exit.LosesChange := by
  -- of an attempt, the streams notice nothing
  have hattempt : stream.seen (attemptReload calls s).2 = stream.seen s := by
    obtain ⟨-, step, hstep⟩ | ⟨-, step, network, time, hstep, -⟩ := attemptReload_cases calls s
    · rw [hstep]
      exact seen_congr rfl (fun _ _ => rfl) fun metric => by cases metric <;> rfl
    · rw [hstep]
      exact seen_congr rfl (fun _ _ => rfl) fun metric => by cases metric <;> rfl
  have hsilent : ∀ {source : Source} {action : Action}, action ≠ .reloaded →
      observeAction stream.metric action = none → stream.observe ⟨source, action⟩ = none := by
    intro source action h hnone
    by_cases hs : source = stream.source
    · rw [hs, observe_own, hnone]
    · exact observe_other hs h
  unfold reload
  generalize attemptReload calls s = attempt at hattempt
  rw [← hattempt]
  obtain ⟨step, s₁⟩ := attempt
  cases step with
  | some step =>
    exact .emit_bind_silent (hsilent (by simp) rfl) (.pure rfl)
  | none =>
    refine .emit_bind_silent (hsilent (by simp) rfl) ?_
    refine .bind (.of_silent (setUpProcesses_emits _ _ _ _ _)
      (Q := fun s₂ => s₂ = appliedReload calls s₁) ⟨fun s₂ h => setUpProcesses_ok h,
        fun _ _ => trivial⟩) ?_
    rintro s₂ d ⟨rfl, rfl⟩
    refine .emit_bind rfl (Detector.step_reset _) (.pure ?_)
    rw [seen_appliedReload]

/-- **A turn of the loop** keeps the protocol of every stream. -/
theorem iteration_watched (calls : Iteration) (s : MainState) :
    Watched stream.observe (.settled (stream.seen s)) (iteration format s calls)
      (fun s' d => d = .settled (stream.seen s')) Exit.LosesChange := by
  refine .bind (Q := fun s' d => d = .settled (stream.seen s')) ?_ ?_
  · unfold reloadIfRequested
    split
    · exact reload_watched stream _ s
    · exact .pure rfl
  · rintro s₁ d rfl
    exact round_watched stream calls.round s₁

/-- At the start, nothing has been seen, and nothing is reported. -/
theorem start_watched (calls : StartCalls) :
    Watched stream.observe (.settled none) (start calls)
      (fun s' d => d = .settled (stream.seen s')) Exit.LosesChange := by
  have hemits : (start calls).Emits fun e => stream.observe e = none := by
    have hsilent : ∀ {action : Action}, action ≠ .reloaded →
        observeAction stream.metric action = none → stream.observe ⟨.system, action⟩ = none := by
      intro action h hnone
      by_cases hs : Source.system = stream.source
      · rw [hs, observe_own, hnone]
      · exact observe_other hs h
    refine .bind (setUpProcesses_emits _ _ _ _ _) fun s₁ _ => .check_bind ?_
    refine .orStop_bind fun previousCpu => .orStop_bind fun previousNetwork =>
      .orStop_bind fun previousNetworkTime => .check_bind ?_
    exact .emit_bind (hsilent (by simp) rfl)
      (.check_bind (.emit_bind (hsilent (by simp) rfl) .pure))
  refine .mono (.of_silent hemits (Q := fun s' => stream.seen s' = none)
    ⟨fun s' h => ?_, fun _ _ => trivial⟩) ?_ fun _ => id
  · obtain ⟨_, _, _, rfl⟩ := start_ok h
    exact seen_of_setUp stream rfl rfl fun metric => by cases metric <;> rfl
  · rintro s' d ⟨hseen, rfl⟩
    rw [hseen]

/-- **A run** keeps the protocol of every stream. -/
theorem daemon_watched (format : OutputFormat) (calls : StartCalls) (its : List Iteration) :
    Watched stream.observe (.settled none) (daemon format calls its)
      (fun s' d => d = .settled (stream.seen s')) Exit.LosesChange := by
  refine .bind (start_watched stream calls) ?_
  rintro s d rfl
  refine .run (I := fun s d => d = .settled (stream.seen s)) ?_ rfl
  rintro s d it - rfl
  exact iteration_watched stream it s

/-- The reasons that stand for a record that was not written, or a clock that was not read. -/
def Exit.IsLogOrClock : Exit → Prop
  | .startupLog | .systemStatusLog | .periodicLog | .initialClock | .clock => True
  | .process _ .memoryLogWrite | .process _ .cpuLogWrite | .process _ .availabilityLogWrite
  | .process _ .clock => True
  | _ => False

/-- **Notifications are changes**: in every run in which no record of the log fails and no
reading of the clock, what is notified for a stream between two resets, or after the last
one, are the pairs of adjacent levels that differ, in order. So each notification goes on
where the one before it has led. -/
theorem notifications_eq_changes (format : OutputFormat) (calls : StartCalls)
    (its : List Iteration) (stream : AlertStream)
    (h : ∀ r, (daemon format calls its).result = .error r → ¬ r.IsLogOrClock)
    (pre seg post : List (Observation AlertLevel))
    (hrun : stream.observations (daemon format calls its).events = pre ++ .reset :: seg ++ post)
    (hseg : .reset ∉ seg) (hpost : post = [] ∨ ∃ rest, post = .reset :: rest) :
    reports seg = changes (values seg) ∧
      (reports seg).IsChain fun change next => change.2 = next.1 := by
  have hwatched := daemon_watched stream format calls its
  -- whatever ends the run, nothing is left unreported
  have hsettled : ∃ b, (Detector.settled none).run (stream.observations
      (daemon format calls its).events) = some (.settled b) := by
    rw [AlertStream.observations, Detector.run_cons, Detector.step_reset, Option.bind_some]
    rcases hres : (daemon format calls its).result with r | s
    · refine (hwatched.error r hres).resolve_left fun hloses => h r hres ?_
      cases r with
      | process i failure => cases failure <;> first | exact hloses | trivial
      | _ => exact absurd hloses id
    · obtain ⟨d, hd, rfl⟩ := hwatched.ok s hres
      exact ⟨_, hd⟩
  obtain ⟨b, hb⟩ := hsettled
  rw [hrun] at hb
  have heq := Detector.reports_eq_changes hb hseg hpost
  exact ⟨heq, heq ▸ isChain_changes _⟩

/-- A round in which all of the memory is used. -/
def memoryExhausted (seconds : ℤ) : RoundCalls :=
  { quietRound (quietProc []) seconds with
    procMeminfo := some (ascii "MemTotal: 4 kB\nMemAvailable: 0 kB\n") }

/-- A start with a target that is not there. -/
def exhaustingStart : StartCalls :=
  quietStart .zero (ascii "process_names=a\n") (quietProc [])

/-- Three rounds; from the second on, the memory is used up. -/
def exhaustingRounds : List Iteration :=
  [⟨none, quietRound (quietProc []) 1⟩, ⟨none, memoryExhausted 2⟩, ⟨none, memoryExhausted 3⟩]

/-- That the memory is used up is notified once. -/
theorem notifications_of_memory :
    ∃ seg, AlertStream.systemMemory.observations
      (daemon .json exhaustingStart exhaustingRounds).events = .reset :: seg ∧
      values seg = [.normal, .critical, .critical] ∧ reports seg = changes (values seg) := by
  have hrun : AlertStream.systemMemory.observations
      (daemon .json exhaustingStart exhaustingRounds).events =
      [.reset, .value .normal, .value .critical, .report .normal .critical, .value .critical] := by
    decide +kernel
  have hok : (daemon .json exhaustingStart exhaustingRounds).result.map (fun _ => ()) = .ok () := by
    decide +kernel
  refine ⟨_, hrun, rfl, (notifications_eq_changes .json exhaustingStart exhaustingRounds
    .systemMemory (fun r hr => ?_) [] _ [] ?_ (by decide) (.inl rfl)).1⟩
  · rw [hr] at hok
    cases hok
  · rw [hrun]
    rfl

end EdgeSentinel.Monitor
