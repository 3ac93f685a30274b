import EdgeSentinel.Monitor.MainLoop

/-!
# What a turn of the loop touches

Specifications of the parts of the loop, one for each function, so that the results about
whole runs need not look into them again.

## What is proved

* `monitorSystem_yields` — the system part of a round leaves the configuration and the
  processes alone.
* `monitorProcessOnce_ok` — what `monitor_process_once` reports is what is there under the
  PID of the process.
* `run_monitorProcess_ok` — in the loop over the processes each is monitored once, with its
  own record, and the others do not notice.
* `round_ok` — **a round**: what becomes of every process, the clean-up included.
-/

namespace EdgeSentinel.Monitor

open CLib Config Trace Trace.Traced

/-! ### Indices -/

theorem mem_processIndices {count : ℕ} {i : ProcessIndex} :
    i ∈ processIndices count ↔ i.val < count := by
  simp [processIndices]

theorem nodup_processIndices (count : ℕ) : (processIndices count).Nodup :=
  (List.nodup_finRange _).filter _

/-- The last index in use. -/
theorem getLastD_processIndices {count : ℕ} (h₁ : 1 ≤ count) (h₈ : count ≤ maxMonitoredProcesses)
    (i : ProcessIndex) : ((processIndices count).getLastD i).val = count - 1 := by
  have : ∀ n : Fin (maxMonitoredProcesses + 1), 1 ≤ n.val → ∀ i : ProcessIndex,
      ((processIndices n.val).getLastD i).val = n.val - 1 := by decide
  exact this ⟨count, Nat.lt_succ_of_le h₈⟩ h₁ i

/-! ### The system part of a round -/

/-- Two states that agree on everything but what the system part of a round keeps. -/
structure SameProcesses (s s' : MainState) : Prop where
  /-- The configuration. -/
  config : s'.config = s.config
  /-- The one read last. -/
  reloadedConfig : s'.reloadedConfig = s.reloadedConfig
  /-- The limit of the log size. -/
  currentLogMaxSize : s'.currentLogMaxSize = s.currentLogMaxSize
  /-- The processes. -/
  processes : s'.processes = s.processes
  /-- Their number. -/
  processCount : s'.processCount = s.processCount
  /-- The one in work. -/
  activeProcess : s'.activeProcess = s.activeProcess

/-- Two states that agree on everything but the levels that were seen, and the count of the
rounds. -/
def OnlyLevels (s s' : MainState) : Prop :=
  ∃ cpu memory disk system counter, s' = { s with
    cpuBaseline := cpu
    memoryBaseline := memory
    diskBaseline := disk
    systemBaseline := system
    logSampleCounter := counter }

/-- The reasons for which setting up the processes can stop. -/
def Exit.IsSetUp : Exit → Prop
  | .tooManyProcesses _ | .processInit _ _ => True
  | _ => False

/-- The other reasons. -/
def Exit.NotSetUp (r : Exit) : Prop := ¬ r.IsSetUp

variable {s s' : MainState} {ρ : Type}

theorem sendAlertChangeNotification_yields {E : ρ → Prop} (config : AppConfig) (now : ℤ)
    (change : AlertChange) :
    (sendAlertChangeNotification (ρ := ρ) config now change).Yields (fun _ => True) E := by
  refine .emit_bind ?_
  split_ifs
  · exact .pure trivial
  · exact .pure trivial
  · split
    · exact .pure trivial
    · exact .emit trivial

theorem watchLevel_yields {E : ρ → Prop} {changed : AlertLevel → Traced Action ρ PUnit}
    (h : ∀ previous, (changed previous).Yields (fun _ => True) E) (baseline : LevelBaseline)
    (level : AlertLevel) : (watchLevel baseline level changed).Yields (fun _ => True) E := by
  unfold watchLevel
  split_ifs
  · exact .seq (h _) fun _ => .pure trivial
  · exact .pure trivial
  · exact .pure trivial

theorem writeLog_yields {E : ρ → Prop} (config : AppConfig) (call : LogCall)
    (level message : Bytes) (written : Bool) {failure : ρ} (h : E failure) :
    (writeLog config call level message written failure).Yields (fun _ => True) E :=
  .emit_bind (.check (fun _ => trivial) fun _ => h)

theorem gradePercentage_yields {E : Exit → Prop} (config : AppConfig) (now : ℤ)
    (metric : AlertMetric) (target : Bytes) (percent warning critical : Double)
    (baseline : LevelBaseline) :
    (gradePercentage config now metric target percent warning critical baseline).Yields
      (fun _ => True) E :=
  .emit_bind (.seq (watchLevel_yields (fun _ => sendAlertChangeNotification_yields _ _ _) _ _)
    fun _ => .pure trivial)

theorem gradeSystemCpu_yields (calls : RoundCalls) (s : MainState) :
    (gradeSystemCpu calls s).Yields (fun r => OnlyLevels s r.2.2.2) Exit.NotSetUp :=
  .orStop_bind (fun _ _ => .check_bind (fun _ => .seq (gradePercentage_yields _ _ _ _ _ _ _ _)
    fun _ => .pure ⟨_, _, _, _, _, rfl⟩) fun _ => id) fun _ => id

theorem measureNetworkSpeed_yields (network : NetworkInfo) (time : Timespec) (s : MainState) :
    (measureNetworkSpeed network time s).Yields (fun r => SameProcesses s r.2) Exit.NotSetUp := by
  unfold measureNetworkSpeed
  split_ifs
  · exact .pure ⟨rfl, rfl, rfl, rfl, rfl, rfl⟩
  · exact .emit_bind (.orStop_bind (fun _ _ => .pure ⟨rfl, rfl, rfl, rfl, rfl, rfl⟩) fun _ => id)

theorem sampleNetwork_yields (calls : RoundCalls) (s : MainState) :
    (sampleNetwork calls s).Yields (fun r => SameProcesses s r.2) Exit.NotSetUp := by
  refine .orStop_bind (fun network _ => .orStop_bind (fun time _ => .emit_bind ?_) fun _ => id)
    fun _ => id
  refine .bind (measureNetworkSpeed_yields network time _) ?_
  rintro ⟨speed, s'⟩ h
  refine .orStop_bind (fun _ _ => .orStop_bind (fun _ _ => .pure ?_) fun _ => id) fun _ => id
  exact ⟨h.config, h.reloadedConfig, h.currentLogMaxSize, h.processes, h.processCount,
    h.activeProcess⟩

theorem gradeSystemMemory_yields (calls : RoundCalls) (s : MainState) :
    (gradeSystemMemory calls s).Yields (fun r => OnlyLevels s r.2.2) Exit.NotSetUp :=
  .orStop_bind (fun _ _ => .seq (gradePercentage_yields _ _ _ _ _ _ _ _)
    fun _ => .pure ⟨_, _, _, _, _, rfl⟩) fun _ => id

theorem gradeDisk_yields (calls : RoundCalls) (s : MainState) :
    (gradeDisk calls s).Yields (fun r => OnlyLevels s r.2.2) Exit.NotSetUp :=
  .orStop_bind (fun _ _ => .seq (gradePercentage_yields _ _ _ _ _ _ _ _)
    fun _ => .pure ⟨_, _, _, _, _, rfl⟩) fun _ => id

theorem watchSystemLevel_yields (calls : RoundCalls) (level : AlertLevel) (percentages : Bytes)
    (s : MainState) :
    (watchSystemLevel calls level percentages s).Yields (OnlyLevels s) Exit.NotSetUp := by
  refine .seq (watchLevel_yields (fun previous => ?_) _ _) fun _ =>
    .pure ⟨_, _, _, _, _, rfl⟩
  refine .check_bind (fun _ => ?_) fun _ => id
  exact writeLog_yields _ _ _ _ _ id

theorem writePeriodicLog_yields (calls : RoundCalls) (level : AlertLevel) (percentages : Bytes)
    (s : MainState) :
    (writePeriodicLog calls level percentages s).Yields (OnlyLevels s) Exit.NotSetUp := by
  unfold writePeriodicLog
  split_ifs
  · exact .seq (writeLog_yields _ _ _ _ _ id) fun _ => .pure ⟨_, _, _, _, _, rfl⟩
  · exact .pure ⟨_, _, _, _, _, rfl⟩

theorem OnlyLevels.trans {s₁ s₂ s₃ : MainState} (h : OnlyLevels s₁ s₂) (h' : OnlyLevels s₂ s₃) :
    OnlyLevels s₁ s₃ := by
  obtain ⟨_, _, _, _, _, rfl⟩ := h
  obtain ⟨_, _, _, _, _, rfl⟩ := h'
  exact ⟨_, _, _, _, _, rfl⟩

theorem OnlyLevels.sameProcesses (h : OnlyLevels s s') : SameProcesses s s' := by
  obtain ⟨_, _, _, _, _, rfl⟩ := h
  exact ⟨rfl, rfl, rfl, rfl, rfl, rfl⟩

theorem SameProcesses.trans {s₁ s₂ s₃ : MainState} (h : SameProcesses s₁ s₂)
    (h' : SameProcesses s₂ s₃) : SameProcesses s₁ s₃ :=
  ⟨h'.config.trans h.config, h'.reloadedConfig.trans h.reloadedConfig,
    h'.currentLogMaxSize.trans h.currentLogMaxSize, h'.processes.trans h.processes,
    h'.processCount.trans h.processCount, h'.activeProcess.trans h.activeProcess⟩

/-- The system part of a round does nothing to the state but to sample the network and to grade
levels. -/
theorem monitorSystem_samples (format : OutputFormat) (calls : RoundCalls) (s : MainState) :
    (monitorSystem format calls s).Yields (fun r => ∃ s₁ sample, OnlyLevels s s₁ ∧
      (sampleNetwork calls s₁).result = .ok sample ∧ OnlyLevels sample.2 r.2) Exit.NotSetUp := by
  refine .bind (gradeSystemCpu_yields calls s) ?_
  rintro ⟨currentCpu, cpuUsage, cpuLevel, s₁⟩ h₁
  have hsample : (sampleNetwork calls s₁).Yields
      (fun sample => (sampleNetwork calls s₁).result = .ok sample) Exit.NotSetUp :=
    ⟨fun _ h => h, (sampleNetwork_yields calls s₁).error⟩
  refine .bind hsample ?_
  rintro ⟨network, s₂⟩ h₂
  refine .bind (gradeSystemMemory_yields calls s₂) ?_
  rintro ⟨memory, memoryLevel, s₃⟩ h₃
  refine .bind (gradeDisk_yields calls s₃) ?_
  rintro ⟨disk, diskLevel, s₄⟩ h₄
  refine .bind (watchSystemLevel_yields calls _ _ s₄) fun s₅ h₅ => ?_
  refine .bind (writePeriodicLog_yields calls _ _ s₅) fun s₆ h₆ => ?_
  refine .orStop_bind (fun _ _ => .orStop_bind (fun _ _ => .orStop_bind (fun _ _ => ?_)
    fun _ => id) fun _ => id) fun _ => id
  exact .emit_bind (.pure ⟨s₁, (network, s₂), h₁, h₂, h₃.trans (h₄.trans (h₅.trans h₆))⟩)

/-- So it leaves the configuration and the processes alone. -/
theorem monitorSystem_yields (format : OutputFormat) (calls : RoundCalls) (s : MainState) :
    (monitorSystem format calls s).Yields (fun r => SameProcesses s r.2) Exit.NotSetUp := by
  refine (monitorSystem_samples format calls s).mono ?_ fun _ => id
  rintro r ⟨s₁, sample, h₁, h₂, h₃⟩
  exact h₁.sameProcesses.trans (((sampleNetwork_yields calls s₁).ok _ h₂).trans h₃.sameProcesses)

/-! ### A process in a round -/

/-- The PID under which a process is monitored in a round: the one it has, or else the one
that is found for its name. -/
def pidInRound (calls : ProcessCalls) (p : MonitoredProcess) : Int32 :=
  if p.targetName.bytes ≠ [] ∧ p.currentPid = 0 then
    (findProcessByName calls.scan p.targetName.bytes).getD 0
  else p.currentPid

/-- Two records of the same process, seen alike. -/
structure SameProcess (p p' : MonitoredProcess) : Prop where
  /-- The name. -/
  targetName : p'.targetName = p.targetName
  /-- The PID. -/
  currentPid : p'.currentPid = p.currentPid
  /-- What was read last. -/
  info : p'.info = p.info
  /-- Whether it is available. -/
  available : p'.available = p.available

/-- What a round does to the record of a process, its levels apart. -/
structure AfterMonitoring (calls : ProcessCalls) (p p' : MonitoredProcess) : Prop where
  /-- The name stays. -/
  targetName : p'.targetName = p.targetName
  /-- The PID. -/
  currentPid : p'.currentPid = pidInRound calls p
  /-- It is available if it can be read. -/
  available : p'.available = (readProcessInfo calls.status (pidInRound calls p)).isSome
  /-- Then its record is what was read. -/
  info : ∀ info, readProcessInfo calls.status (pidInRound calls p) = some info → p'.info = info
  /-- Otherwise it stays, or it is cleared for a new PID. -/
  kept : readProcessInfo calls.status (pidInRound calls p) = none →
    p'.info = p.info ∨ p'.info = .zero

theorem lookUpProcess_yields (calls : ProcessCalls) (p : MonitoredProcess) :
    (lookUpProcess calls p).Yields (fun p' => p'.targetName = p.targetName ∧
      p'.currentPid = pidInRound calls p ∧ (p'.info = p.info ∨ p'.info = .zero))
      fun _ => True := by
  unfold lookUpProcess pidInRound
  split_ifs with h
  · cases hf : findProcessByName calls.scan p.targetName.bytes with
    | none => exact .pure ⟨rfl, h.2, .inl rfl⟩
    | some pid => exact .emit_bind (.pure ⟨rfl, rfl, .inr rfl⟩)
  · exact .pure ⟨rfl, rfl, .inl rfl⟩

theorem gradeMemory_yields (config : AppConfig) (calls : ProcessCalls) (p : MonitoredProcess) :
    (gradeMemory config calls p).Yields (SameProcess p) fun _ => True := by
  refine .check_bind (fun _ => .emit_bind ?_) fun _ => trivial
  refine .seq (watchLevel_yields (fun previous => ?_) _ _) fun _ => .pure ⟨rfl, rfl, rfl, rfl⟩
  refine .check_bind (fun _ => ?_) fun _ => trivial
  exact .seq (writeLog_yields _ _ _ _ _ trivial) fun _ => sendAlertChangeNotification_yields _ _ _

theorem readProcess_yields (config : AppConfig) (calls : ProcessCalls) (p : MonitoredProcess) :
    (readProcess config calls p).Yields (fun p' => p'.targetName = p.targetName ∧
      p'.currentPid = p.currentPid ∧
      p'.available = (readProcessInfo calls.status p.currentPid).isSome ∧
      (∀ info, readProcessInfo calls.status p.currentPid = some info → p'.info = info) ∧
      (readProcessInfo calls.status p.currentPid = none → p'.info = p.info)) fun _ => True := by
  unfold readProcess
  cases readProcessInfo calls.status p.currentPid with
  | none => exact .emit_bind (.pure ⟨rfl, rfl, rfl, fun _ h => (by cases h), fun _ => rfl⟩)
  | some info =>
    refine .emit_bind ((gradeMemory_yields config calls _).mono (fun p' h => ?_) fun _ => id)
    exact ⟨h.targetName, h.currentPid, h.available, fun i hi => by
      obtain rfl := Option.some.inj hi
      exact h.info, fun hi => by cases hi⟩

theorem gradeProcessCpu_yields (config : AppConfig) (calls : ProcessCalls)
    (p : MonitoredProcess) : (gradeProcessCpu config calls p).Yields (SameProcess p) fun _ => True := by
  refine .emit_bind (.seq (watchLevel_yields (fun previous => ?_) _ _) fun _ =>
    .pure ⟨rfl, rfl, rfl, rfl⟩)
  refine .check_bind (fun _ => ?_) fun _ => trivial
  exact .seq (writeLog_yields _ _ _ _ _ trivial) fun _ => sendAlertChangeNotification_yields _ _ _

theorem compareCpuSamples_yields (config : AppConfig) (calls : ProcessCalls)
    (times : ProcessCpuTimes) (time : Timespec) (p : MonitoredProcess) :
    (compareCpuSamples config calls times time p).Yields (SameProcess p) fun _ => True := by
  unfold compareCpuSamples
  split_ifs
  · refine .emit_bind ?_
    dsimp only
    split_ifs
    · exact (gradeProcessCpu_yields config calls _).mono
        (fun p' h => ⟨h.targetName, h.currentPid, h.info, h.available⟩) fun _ => id
    · exact .pure ⟨rfl, rfl, rfl, rfl⟩
  · exact .pure ⟨rfl, rfl, rfl, rfl⟩

theorem monitorProcessCpu_yields (config : AppConfig) (calls : ProcessCalls)
    (p : MonitoredProcess) : (monitorProcessCpu config calls p).Yields (SameProcess p) fun _ => True := by
  unfold monitorProcessCpu
  split_ifs
  · unfold sampleProcessCpu
    cases readProcessCpuTimes calls.stat p.currentPid with
    | none => exact .emit_bind (.pure ⟨rfl, rfl, rfl, rfl⟩)
    | some times =>
      refine .orStop_bind (fun time _ => .emit_bind ?_) fun _ => trivial
      exact .bind (compareCpuSamples_yields config calls times time p) fun p' h =>
        .pure ⟨h.targetName, h.currentPid, h.info, h.available⟩
  · exact .pure ⟨rfl, rfl, rfl, rfl⟩

theorem watchAvailability_yields (config : AppConfig) (calls : ProcessCalls)
    (p : MonitoredProcess) : (watchAvailability config calls p).Yields (SameProcess p) fun _ => True := by
  unfold watchAvailability
  split_ifs
  · refine .check_bind (fun _ => ?_) fun _ => trivial
    exact .seq (writeLog_yields _ _ _ _ _ trivial) fun _ => .pure ⟨rfl, rfl, rfl, rfl⟩
  · exact .pure ⟨rfl, rfl, rfl, rfl⟩
  · exact .pure ⟨rfl, rfl, rfl, rfl⟩

/-- **A process in a round**: what is read is what is there under its PID. -/
theorem monitorProcessOnce_ok {config : AppConfig} {calls : ProcessCalls} {p p' : MonitoredProcess}
    (h : (monitorProcessOnce config calls p).result = .ok p') : AfterMonitoring calls p p' := by
  refine Yields.ok (E := fun _ => True) ?_ p' h
  refine .bind (lookUpProcess_yields calls p) fun p₁ h₁ => ?_
  refine .bind (readProcess_yields config calls p₁) fun p₂ h₂ => ?_
  refine .bind (monitorProcessCpu_yields config calls _) fun p₃ h₃ => ?_
  refine .bind (watchAvailability_yields config calls p₃) fun p₄ h₄ => .emit_bind (.pure ?_)
  rw [h₁.2.1] at h₂
  have hinfo : p₄.info = p₂.info := h₄.info.trans h₃.info
  exact ⟨h₄.targetName.trans (h₃.targetName.trans (h₂.1.trans h₁.1)),
    h₄.currentPid.trans (h₃.currentPid.trans h₂.2.1),
    h₄.available.trans (h₃.available.trans h₂.2.2.1),
    fun info hi => hinfo.trans (h₂.2.2.2.1 info hi),
    fun hi => by rw [hinfo, h₂.2.2.2.2 hi]; exact h₁.2.2⟩

/-! ### What is said of a process -/

/-- The actions that go with grading a level: the level, its change, and the records and
notifications of the change. -/
def Action.OfLevel (metric : AlertMetric) : Action → Prop
  | .evaluated m _ _ => m = metric
  | .alertChanged change => change.metric = metric
  | .logWrite _ _ _ _ | .notifierSend _ _ => True
  | _ => False

/-- The actions that go with sampling the CPU usage of a process. -/
def Action.OfCpu : Action → Prop
  | .cpuTimesRead _ _ _ | .cpuTimesUnreadable _ | .cpuUsageCalculated _ _ _ _ => True
  | e => e.OfLevel .processCpu

/-- A notification consists of its change, and of the event that is sent. -/
theorem sendAlertChangeNotification_emits {P : Action → Prop} (config : AppConfig) (now : ℤ)
    (change : AlertChange) (hchanged : P (.alertChanged change))
    (hsent : ∀ event command, P (.notifierSend event command)) :
    (sendAlertChangeNotification (ρ := ρ) config now change).Emits P := by
  refine .emit_bind hchanged ?_
  split_ifs
  · exact .pure
  · exact .pure
  · split
    · exact .pure
    · exact .emit (hsent _ _)

/-- A call of the logger consists of its record. -/
theorem writeLog_emits {P : Action → Prop} {config : AppConfig} {call : LogCall}
    {level message : Bytes} {written : Bool} {failure : ρ}
    (h : P (.logWrite call config.logFile.cstr level message)) :
    (writeLog config call level message written failure).Emits P :=
  .emit_bind h .check

theorem watchLevel_emits {P : Action → Prop} {changed : AlertLevel → Traced Action ρ PUnit}
    (h : ∀ previous, (changed previous).Emits P) (baseline : LevelBaseline) (level : AlertLevel) :
    (watchLevel baseline level changed).Emits P := by
  unfold watchLevel
  split_ifs
  · exact .bind (h _) fun _ _ => .pure
  · exact .pure
  · exact .pure

theorem lookUpProcess_emits (calls : ProcessCalls) (p : MonitoredProcess) :
    (lookUpProcess calls p).Emits fun e => ∃ pid, e = .found pid := by
  unfold lookUpProcess
  split_ifs
  · split
    · exact .pure
    · exact .emit_bind ⟨_, rfl⟩ .pure
  · exact .pure

/-- Grading the memory of a process consists of its level, and of a record and a notification if
the level changed. The target of the notification has been checked by then. -/
theorem gradeMemory_emits_of {P : Action → Prop} {config : AppConfig} {calls : ProcessCalls}
    {p : MonitoredProcess} (hevaluated : ∀ value level, P (.evaluated .processMemory value level))
    (hlog : ∀ path level message, P (.logWrite .processMemory path level message))
    (hchanged : (notificationTarget p).length < alertEventTargetLength → ∀ previous level,
      P (.alertChanged ⟨.processMemory, notificationTarget p, previous, level,
        .finite ((p.info.residentMemoryKb.toNat : ℚ) / 1024), ascii "MiB"⟩))
    (hsent : ∀ event command, P (.notifierSend event command)) :
    (gradeMemory config calls p).Emits P := by
  refine .bind .check fun _ htarget => .emit_bind (hevaluated _ _) ?_
  refine .bind (watchLevel_emits (fun _ => .check_bind ?_) _ _) fun _ _ => .pure
  exact .bind (writeLog_emits (hlog _ _ _)) fun _ _ =>
    sendAlertChangeNotification_emits _ _ _ (hchanged (result_check_ok.mp htarget) _ _) hsent

theorem gradeMemory_emits (config : AppConfig) (calls : ProcessCalls) (p : MonitoredProcess) :
    (gradeMemory config calls p).Emits (Action.OfLevel .processMemory) :=
  gradeMemory_emits_of (fun _ _ => rfl) (fun _ _ _ => trivial) (fun _ _ _ => rfl)
    fun _ _ => trivial

/-- Grading the CPU usage of a process consists of the same. -/
theorem gradeProcessCpu_emits_of {P : Action → Prop} {config : AppConfig} {calls : ProcessCalls}
    {p : MonitoredProcess} (hevaluated : ∀ value level, P (.evaluated .processCpu value level))
    (hlog : ∀ path level message, P (.logWrite .processCpu path level message))
    (hchanged : ∀ previous level, P (.alertChanged
      ⟨.processCpu, notificationTarget p, previous, level, p.cpuUsage, ascii "%"⟩))
    (hsent : ∀ event command, P (.notifierSend event command)) :
    (gradeProcessCpu config calls p).Emits P := by
  refine .emit_bind (hevaluated _ _) ?_
  refine .bind (watchLevel_emits (fun _ => .check_bind ?_) _ _) fun _ _ => .pure
  exact .bind (writeLog_emits (hlog _ _ _)) fun _ _ =>
    sendAlertChangeNotification_emits _ _ _ (hchanged _ _) hsent

theorem gradeProcessCpu_emits (config : AppConfig) (calls : ProcessCalls)
    (p : MonitoredProcess) :
    (gradeProcessCpu config calls p).Emits (Action.OfLevel .processCpu) :=
  gradeProcessCpu_emits_of (fun _ _ => rfl) (fun _ _ _ => trivial) (fun _ _ => rfl)
    fun _ _ => trivial

/-- Comparing two samples consists of the usage, and of its grading if it is one. -/
theorem compareCpuSamples_emits_of {P : Action → Prop} {config : AppConfig} {calls : ProcessCalls}
    {times : ProcessCpuTimes} {time : Timespec} {p : MonitoredProcess}
    (hcalculated : ∀ previous current elapsed usage,
      P (.cpuUsageCalculated previous current elapsed usage))
    (hgrade : (gradeProcessCpu config calls { p with
      cpuUsage := calculateProcessCpuUsage calls.ticksPerSecond p.previousCpuTimes times
        (calculateElapsedSeconds p.previousCpuSampleTime time) }).Emits P) :
    (compareCpuSamples config calls times time p).Emits P := by
  unfold compareCpuSamples
  split_ifs
  · refine .emit_bind (hcalculated _ _ _ _) ?_
    dsimp only
    split_ifs
    · exact hgrade
    · exact .pure
  · exact .pure

theorem compareCpuSamples_emits (config : AppConfig) (calls : ProcessCalls)
    (times : ProcessCpuTimes) (time : Timespec) (p : MonitoredProcess) :
    (compareCpuSamples config calls times time p).Emits Action.OfCpu := by
  refine compareCpuSamples_emits_of (fun _ _ _ _ => trivial) ?_
  refine (gradeProcessCpu_emits _ _ _).mono fun e he => ?_
  cases e <;> first | exact he | trivial

/-- The CPU usage of a process consists of the sample, and of its comparison with the one before;
an unavailable process has none. -/
theorem monitorProcessCpu_emits_of {P : Action → Prop} {config : AppConfig} {calls : ProcessCalls}
    {p : MonitoredProcess} (hunreadable : ∀ pid, P (.cpuTimesUnreadable pid))
    (hread : ∀ pid times time, P (.cpuTimesRead pid times time))
    (hcompare : p.available = true → ∀ times time,
      (compareCpuSamples config calls times time p).Emits P) :
    (monitorProcessCpu config calls p).Emits P := by
  unfold monitorProcessCpu
  split_ifs with havailable
  · unfold sampleProcessCpu
    split
    · exact .emit_bind (hunreadable _) .pure
    · exact .orStop_bind fun time => .emit_bind (hread _ _ _)
        (.bind (hcompare havailable _ time) fun _ _ => .pure)
  · exact .pure

theorem monitorProcessCpu_emits (config : AppConfig) (calls : ProcessCalls)
    (p : MonitoredProcess) : (monitorProcessCpu config calls p).Emits Action.OfCpu :=
  monitorProcessCpu_emits_of (fun _ => trivial) (fun _ _ _ => trivial)
    fun _ times time => compareCpuSamples_emits config calls times time p

/-- The comparison of the availability only writes a log record. -/
theorem watchAvailability_emits {P : Action → Prop}
    (h : ∀ path level message, P (.logWrite .availability path level message))
    (config : AppConfig) (calls : ProcessCalls) (p : MonitoredProcess) :
    (watchAvailability config calls p).Emits P := by
  unfold watchAvailability
  split_ifs
  · exact .check_bind (.bind (writeLog_emits (h _ _ _)) fun _ _ => .pure)
  · exact .pure
  · exact .pure

/-- The actions of the system part of a round. What it prints are these processes. -/
def Action.OfSystem (processes : List MonitoredProcess) : Action → Prop
  | .printed _ snapshot _ _ => snapshot.processes = processes
  | .reloaded => False
  | _ => True

theorem Action.OfLevel.ofSystem {metric : AlertMetric} {processes : List MonitoredProcess}
    {e : Action} (h : e.OfLevel metric) : e.OfSystem processes := by
  cases e <;> trivial

/-- Grading a percentage consists of its level, and of the notification if the level changed. -/
theorem gradePercentage_emits {P : Action → Prop} {config : AppConfig} {now : ℤ}
    {own : AlertMetric} {target : Bytes} {percent warning critical : Double}
    {baseline : LevelBaseline} (hevaluated : ∀ level, P (.evaluated own percent level))
    (hchanged : ∀ previous level, P (.alertChanged
      ⟨own, target, previous, level, percent, ascii "%"⟩))
    (hsent : ∀ event command, P (.notifierSend event command)) :
    (gradePercentage config now own target percent warning critical baseline).Emits P := by
  refine .emit_bind (hevaluated _) (.bind (watchLevel_emits (fun _ => ?_) _ _) fun _ _ => .pure)
  exact sendAlertChangeNotification_emits _ _ _ (hchanged _ _) hsent

/-- Sampling the network consists of the sample, and of the speed if there is one. -/
theorem sampleNetwork_emits {P : Action → Prop}
    (hsampled : ∀ interfaces info time, P (.networkSampled interfaces info time))
    (hspeed : ∀ previous current elapsed, P (.speedCalculated previous current elapsed))
    (calls : RoundCalls) (s : MainState) : (sampleNetwork calls s).Emits P := by
  refine .orStop_bind fun network => .orStop_bind fun time => .emit_bind (hsampled _ _ _) ?_
  refine .bind ?_ fun r _ => .orStop_bind fun _ => .orStop_bind fun _ => .pure
  unfold measureNetworkSpeed
  split_ifs
  · exact .pure
  · exact .emit_bind (hspeed _ _ _) (.orStop_bind fun _ => .pure)

/-- Watching the level of the system consists of a log record if it changed. -/
theorem watchSystemLevel_emits {P : Action → Prop}
    (hlog : ∀ path level message, P (.logWrite .systemStatus path level message))
    (calls : RoundCalls) (level : AlertLevel) (percentages : Bytes) (s : MainState) :
    (watchSystemLevel calls level percentages s).Emits P := by
  refine .bind (watchLevel_emits (fun previous => ?_) _ _) fun _ _ => .pure
  exact .check_bind (writeLog_emits (hlog _ _ _))

/-- Every tenth round is a log record. -/
theorem writePeriodicLog_emits {P : Action → Prop}
    (hlog : ∀ path level message, P (.logWrite .periodic path level message))
    (calls : RoundCalls) (level : AlertLevel) (percentages : Bytes) (s : MainState) :
    (writePeriodicLog calls level percentages s).Emits P := by
  unfold writePeriodicLog
  split_ifs
  · exact .bind (writeLog_emits (hlog _ _ _)) fun _ _ => .pure
  · exact .pure

/-- Where in the system part of a round an event comes from. -/
inductive SystemEvent (format : OutputFormat) (calls : RoundCalls) (s : MainState) :
    Action → Prop where
  /-- From the grading of a level, or from a log record. -/
  | level {e : Action} (metric : AlertMetric) (h : e.OfLevel metric) : SystemEvent format calls s e
  /-- From the sample of the network. -/
  | network {e : Action} (s₁ : MainState) (hs₁ : OnlyLevels s s₁)
      (h : e ∈ (sampleNetwork calls s₁).events) : SystemEvent format calls s e
  /-- From the output: the speeds are those of the sample, the processes those of the round. -/
  | output (s₁ : MainState) (sample : NetworkSample × MainState) (snapshot : MonitorSnapshot)
      (hs₁ : OnlyLevels s s₁) (hsample : (sampleNetwork calls s₁).result = .ok sample)
      (hspeed : ⟨snapshot.downloadBytesPerSecond, snapshot.uploadBytesPerSecond⟩ = sample.1.speed)
      (hprocesses : snapshot.processes = (processIndices s.processCount).map s.processes) :
      SystemEvent format calls s
        (.printed format snapshot sample.1.download sample.1.upload)

/-- **The events of the system part of a round** come from its blocks. -/
theorem monitorSystem_event (format : OutputFormat) (calls : RoundCalls) (s : MainState) :
    (monitorSystem format calls s).Emits (SystemEvent format calls s) := by
  have hgrade : ∀ {config : AppConfig} {now : ℤ} {own : AlertMetric} {target : Bytes}
      {percent warning critical : Double} {baseline : LevelBaseline},
      (gradePercentage config now own target percent warning critical baseline).Emits
        (SystemEvent format calls s) :=
    gradePercentage_emits (fun _ => .level _ rfl) (fun _ _ => .level _ rfl)
      fun _ _ => .level .disk trivial
  have hlog : ∀ call path level message, SystemEvent format calls s
      (.logWrite call path level message) := fun _ _ _ _ => .level .disk trivial
  refine .bind (.orStop_bind fun _ => .check_bind (.bind hgrade fun _ _ => .pure)) fun r₁ h₁ => ?_
  have hlevels := (gradeSystemCpu_yields calls s).ok _ h₁
  refine .bind (fun e => .network _ hlevels) fun r₂ h₂ => ?_
  refine .bind (.orStop_bind fun _ => .bind hgrade fun _ _ => .pure) fun r₃ h₃ => ?_
  refine .bind (.orStop_bind fun _ => .bind hgrade fun _ _ => .pure) fun r₄ h₄ => ?_
  refine .bind (watchSystemLevel_emits (hlog _) calls _ _ _) fun s₅ h₅ => ?_
  refine .bind (writePeriodicLog_emits (hlog _) calls _ _ _) fun s₆ h₆ => ?_
  refine .orStop_bind fun _ => .orStop_bind fun _ => .orStop_bind fun _ =>
    .emit_bind (.output _ r₂ _ hlevels h₂ rfl ?_) .pure
  have hsame : SameProcesses s s₆ :=
    hlevels.sameProcesses.trans (((sampleNetwork_yields calls _).ok _ h₂).trans
      ((((gradeSystemMemory_yields calls _).ok _ h₃).trans
        (((gradeDisk_yields calls _).ok _ h₄).trans
          (((watchSystemLevel_yields calls _ _ _).ok _ h₅).trans
            ((writePeriodicLog_yields calls _ _ _).ok _ h₆)))).sameProcesses))
  show (processIndices s₆.processCount).map s₆.processes = _
  rw [hsame.processCount, hsame.processes]

/-- The system part of a round prints the processes as it finds them. -/
theorem monitorSystem_emits (format : OutputFormat) (calls : RoundCalls) (s : MainState) :
    (monitorSystem format calls s).Emits
      (Action.OfSystem ((processIndices s.processCount).map s.processes)) := by
  refine (monitorSystem_event format calls s).mono fun e he => ?_
  cases he with
  | level metric h => exact h.ofSystem
  | network s₁ hs₁ h =>
    exact sampleNetwork_emits (fun _ _ _ => trivial) (fun _ _ _ => trivial) calls s₁ e h
  | output s₁ sample snapshot hs₁ hsample hspeed hprocesses => exact hprocesses

/-! ### The configuration of a process -/

/-- Two configurations that are the same as far as a target goes by them. -/
structure SameForTargets (config config' : AppConfig) : Prop where
  /-- The log file. -/
  logFile : config'.logFile.cstr = config.logFile.cstr
  /-- Whether alerts are sent. -/
  notificationEnabled : config'.notificationEnabled = config.notificationEnabled
  /-- The program that receives them. -/
  notificationCommand : config'.notificationCommand.cstr = config.notificationCommand.cstr
  /-- A threshold of the CPU usage. -/
  processCpuWarningThreshold :
    config'.processCpuWarningThreshold = config.processCpuWarningThreshold
  /-- The other one. -/
  processCpuCriticalThreshold :
    config'.processCpuCriticalThreshold = config.processCpuCriticalThreshold
  /-- A threshold of the memory. -/
  processMemoryWarningThresholdMib :
    config'.processMemoryWarningThresholdMib = config.processMemoryWarningThresholdMib
  /-- The other one. -/
  processMemoryCriticalThresholdMib :
    config'.processMemoryCriticalThresholdMib = config.processMemoryCriticalThresholdMib

variable {config config' : AppConfig}

theorem sendAlertChangeNotification_congr (h : SameForTargets config config') (now : ℤ)
    (change : AlertChange) : sendAlertChangeNotification (ρ := ρ) config' now change =
      sendAlertChangeNotification config now change := by
  unfold sendAlertChangeNotification
  rw [h.notificationEnabled, h.notificationCommand]

theorem writeLog_congr (h : SameForTargets config config') (call : LogCall)
    (level message : Bytes) (written : Bool) (failure : ρ) :
    writeLog config' call level message written failure =
      writeLog config call level message written failure := by
  unfold writeLog
  rw [h.logFile]

/-- A process in a round goes by these parts of the configuration only. -/
theorem monitorProcessOnce_congr (h : SameForTargets config config') (calls : ProcessCalls)
    (p : MonitoredProcess) :
    monitorProcessOnce config' calls p = monitorProcessOnce config calls p := by
  have hsend := sendAlertChangeNotification_congr.{0} (ρ := MonitorFailure) h
  have hlog := writeLog_congr.{0} (ρ := MonitorFailure) h
  unfold monitorProcessOnce readProcess gradeMemory monitorProcessCpu sampleProcessCpu
    compareCpuSamples gradeProcessCpu watchAvailability
  simp only [hsend, hlog, h.processCpuWarningThreshold, h.processCpuCriticalThreshold,
    h.processMemoryWarningThresholdMib, h.processMemoryCriticalThresholdMib]

/-! ### The processes in a round -/

theorem monitorProcesses_yields (calls : RoundCalls) (s : MainState) :
    (monitorProcesses calls s).Yields (fun _ => True) Exit.NotSetUp :=
  .run (fun _ _ _ _ => .seq (.rename ⟨fun _ _ => trivial, fun _ _ => id⟩) fun _ => .pure trivial)
    trivial

/-- A turn of the loop over the processes acts for its process only. -/
theorem monitorProcess_emits (calls : RoundCalls) (s : MainState) (i : ProcessIndex) :
    (monitorProcess calls s i).Emits fun e => e.source = .process i := by
  refine .bind (fun e he => ?_) fun _ _ => .pure
  obtain ⟨a, -, rfl⟩ := List.mem_map.mp he
  rfl

/-- The loop over some of the processes: each is monitored once, with its own record, and the
others do not notice. -/
theorem run_monitorProcess_ok {calls : RoundCalls} {is : List ProcessIndex} (hnd : is.Nodup)
    (h : (run (monitorProcess calls) s is).result = .ok s') :
    (∀ i ∈ is, (monitorProcessOnce s.config (calls.processes i) (s.processes i)).result =
      .ok (s'.processes i)) ∧
    (∀ i ∉ is, s'.processes i = s.processes i) ∧
    s' = { s with processes := s'.processes, activeProcess := is.getLastD s.activeProcess } := by
  induction is generalizing s with
  | nil =>
    obtain rfl := Except.ok.inj h
    exact ⟨fun i hi => absurd hi List.not_mem_nil, fun _ _ => rfl, rfl⟩
  | cons i is ih =>
    obtain ⟨hi, hnd⟩ := List.nodup_cons.mp hnd
    obtain ⟨s₁, hs₁, h⟩ := result_bind_ok.mp h
    obtain ⟨p, hp, hs₁⟩ := result_bind_ok.mp hs₁
    rw [result_rename_ok] at hp
    obtain rfl := Except.ok.inj hs₁
    obtain ⟨hmem, hnot, heq⟩ := ih hnd h
    have hpi : s'.processes i = p := (hnot i hi).trans (Function.update_self i p s.processes)
    have hother : ∀ j, j ≠ i → Function.update s.processes i p j = s.processes j := fun j hj =>
      Function.update_of_ne hj p s.processes
    refine ⟨fun j hj => ?_, fun j hj => ?_, ?_⟩
    · rcases List.mem_cons.mp hj with rfl | hj
      · rw [hpi, hp]
      · rw [← hmem j hj]
        dsimp only
        rw [hother j fun he => hi (he ▸ hj)]
    · rw [List.mem_cons, not_or] at hj
      exact (hnot j hj.2).trans (hother j hj.1)
    · rw [heq, List.getLastD_cons]

/-- A turn of the loop over the processes writes the record of its process only. -/
theorem monitorProcess_ok {calls : RoundCalls} {i : ProcessIndex}
    (h : (monitorProcess calls s i).result = .ok s') :
    ∃ p, (monitorProcessOnce s.config (calls.processes i) (s.processes i)).result = .ok p ∧
      s' = { s with activeProcess := i, processes := Function.update s.processes i p } := by
  obtain ⟨p, hp, h⟩ := result_bind_ok.mp h
  obtain rfl := Except.ok.inj h
  exact ⟨p, result_rename_ok.mp hp, rfl⟩

/-- The loop calls `monitor_process_once` with the records that are there in front of it. -/
theorem taken_monitorProcess {calls : RoundCalls} {is : List ProcessIndex} (hnd : is.Nodup)
    {d : MainState × ProcessIndex} (hd : d ∈ taken (monitorProcess calls) s is) :
    d.1.config = s.config ∧ d.1.processes d.2 = s.processes d.2 := by
  induction is generalizing s with
  | nil => cases hd
  | cons i is ih =>
    obtain ⟨hi, hnd⟩ := List.nodup_cons.mp hnd
    rw [taken] at hd
    rcases List.mem_cons.mp hd with rfl | hd
    · exact ⟨rfl, rfl⟩
    · split at hd
      · next s₁ hs₁ =>
        have hmem : d.2 ∈ is :=
          (isPrefix_map_snd_taken (monitorProcess calls) s₁ is).subset (List.mem_map_of_mem hd)
        have hne : d.2 ≠ i := fun he => hi (he ▸ hmem)
        obtain ⟨hconfig, hrecord⟩ := ih hnd hd
        obtain ⟨p, -, rfl⟩ := monitorProcess_ok hs₁
        exact ⟨hconfig, hrecord.trans (Function.update_of_ne hne _ _)⟩
      · cases hd

/-- The record of a process, its PID forgotten if it is unavailable and `clear` holds. -/
def forgetIf (clear : Prop) [Decidable clear] (p : MonitoredProcess) : MonitoredProcess :=
  if clear ∧ ¬ p.available then { p with currentPid := 0 } else p

/-- The clean-up changes the process in work only. -/
theorem forgetUnavailable_processes (s : MainState) (i : ProcessIndex) :
    (forgetUnavailable s).processes i =
      forgetIf (s.config.processName.cstr ≠ [] ∧ i = s.activeProcess) (s.processes i) := by
  unfold forgetUnavailable forgetIf
  by_cases hi : i = s.activeProcess
  · subst hi
    simp only [and_true]
    split_ifs
    · exact Function.update_self _ _ _
    · rfl
  · simp only [hi, and_false, false_and, if_false]
    split_ifs
    · exact Function.update_of_ne hi _ _
    · rfl

@[simp] theorem forgetUnavailable_config (s : MainState) :
    (forgetUnavailable s).config = s.config := by
  unfold forgetUnavailable
  split_ifs <;> rfl

@[simp] theorem forgetUnavailable_reloadedConfig (s : MainState) :
    (forgetUnavailable s).reloadedConfig = s.reloadedConfig := by
  unfold forgetUnavailable
  split_ifs <;> rfl

@[simp] theorem forgetUnavailable_currentLogMaxSize (s : MainState) :
    (forgetUnavailable s).currentLogMaxSize = s.currentLogMaxSize := by
  unfold forgetUnavailable
  split_ifs <;> rfl

@[simp] theorem forgetUnavailable_processCount (s : MainState) :
    (forgetUnavailable s).processCount = s.processCount := by
  unfold forgetUnavailable
  split_ifs <;> rfl

/-- The output changes nothing but `active_process`. -/
theorem afterOutput_eq (format : OutputFormat) (s : MainState) :
    ∃ i, afterOutput format s = { s with activeProcess := i } := by
  cases format <;> exact ⟨_, rfl⟩

/-- What a round does to the configuration and the processes. -/
structure AfterRound (calls : RoundCalls) (s s' : MainState) : Prop where
  /-- The configuration stays. -/
  config : s'.config = s.config
  /-- The one read last stays. -/
  reloadedConfig : s'.reloadedConfig = s.reloadedConfig
  /-- The limit of the log size stays. -/
  currentLogMaxSize : s'.currentLogMaxSize = s.currentLogMaxSize
  /-- The number of processes stays. -/
  processCount : s'.processCount = s.processCount
  /-- The loop over the processes is completed, and the clean-up sees the last one only. -/
  loop : ∃ s₁, (monitorProcesses calls s).result = .ok s₁ ∧ ∀ i, s'.processes i =
    forgetIf (s.config.processName.cstr ≠ [] ∧ i.val = s.processCount - 1) (s₁.processes i)
  /-- Every process in use is monitored once. -/
  monitored : ∀ i, i.val < s.processCount → ∃ p,
    (monitorProcessOnce s.config (calls.processes i) (s.processes i)).result = .ok p ∧
    s'.processes i =
      forgetIf (s.config.processName.cstr ≠ [] ∧ i.val = s.processCount - 1) p
  /-- The others stay. -/
  unused : ∀ i, ¬ i.val < s.processCount → s'.processes i = s.processes i

/-- **A round**, for the configuration and the processes. -/
theorem round_ok {format : OutputFormat} {calls : RoundCalls} (h₁ : 1 ≤ s.processCount)
    (h₈ : s.processCount ≤ maxMonitoredProcesses)
    (h : (round format calls s).result = .ok s') : AfterRound calls s s' := by
  obtain ⟨s₁, hs₁, h⟩ := result_bind_ok.mp h
  obtain ⟨⟨currentCpu, s₂⟩, hs₂, h⟩ := result_bind_ok.mp h
  rw [result_rename_ok] at hs₂
  have hsame : SameProcesses s₁ s₂ := (monitorSystem_yields format calls s₁).ok _ hs₂
  obtain ⟨hmem, hnot, heq⟩ := run_monitorProcess_ok (nodup_processIndices _) hs₁
  obtain rfl := Except.ok.inj h
  rw [heq] at hsame
  -- `active_process` is the last process, whichever the format
  have hactive : (afterOutput format s₂).activeProcess.val = s.processCount - 1 := by
    cases format with
    | text =>
      show ((processIndices s₂.processCount).getLastD s₂.activeProcess).val = _
      rw [hsame.processCount, getLastD_processIndices h₁ h₈]
    | json =>
      show s₂.activeProcess.val = _
      rw [hsame.activeProcess, getLastD_processIndices h₁ h₈]
  obtain ⟨active, houtput⟩ := afterOutput_eq format s₂
  rw [houtput] at hactive ⊢
  have hclean : ∀ i, (forgetUnavailable { s₂ with activeProcess := active }).processes i =
      forgetIf (s.config.processName.cstr ≠ [] ∧ i.val = s.processCount - 1) (s₁.processes i) := by
    intro i
    rw [forgetUnavailable_processes]
    dsimp only
    rw [hsame.config, hsame.processes, ← hactive]
    simp only [Fin.ext_iff]
  refine ⟨?_, ?_, ?_, ?_, ⟨s₁, hs₁, hclean⟩, fun i hi =>
    ⟨s₁.processes i, hmem i (mem_processIndices.mpr hi), hclean i⟩, fun i hi => ?_⟩
  · exact (forgetUnavailable_config _).trans hsame.config
  · exact (forgetUnavailable_reloadedConfig _).trans hsame.reloadedConfig
  · exact (forgetUnavailable_currentLogMaxSize _).trans hsame.currentLogMaxSize
  · exact (forgetUnavailable_processCount _).trans hsame.processCount
  · have hlast : ¬ (s.config.processName.cstr ≠ [] ∧ i.val = s.processCount - 1) := fun hc => by
      omega
    refine (hclean i).trans ?_
    rw [hnot i fun hm => hi (mem_processIndices.mp hm), forgetIf, if_neg fun hc => hlast hc.1]

end EdgeSentinel.Monitor
