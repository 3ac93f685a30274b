import EdgeSentinel.Monitor.Frame

/-!
# What a round makes of a record

`monitor_process_once` sets about fifteen fields of the record of a process, on branches that
overlap, and leaves others as they were. A call that returns 0 has gone one of three ways: the
process was unavailable, or its CPU times could not be read, or they could.

## What is proved

* `Outcome` — the three ways, each with the whole record that it leaves behind.
* `monitorProcessOnce_outcome` — **every call** that returns 0 has gone one of them.
-/

namespace EdgeSentinel.Monitor

open CLib Config Trace Trace.Traced

/-! ### The records on the way -/

/-- The record behind the look-up. -/
def lookedUp (calls : ProcessCalls) (p : MonitoredProcess) : MonitoredProcess :=
  if p.targetName.bytes ≠ [] ∧ p.currentPid = 0 then
    match findProcessByName calls.scan p.targetName.bytes with
    | none => p
    | some pid => { p with currentPid := pid }.resetRuntimeState
  else p

/-- The memory of a process, in MiB. -/
def memoryMibOf (info : ProcessInfo) : Double := .finite ((info.residentMemoryKb.toNat : ℚ) / 1024)

/-- Its level. -/
def memoryLevelOf (config : AppConfig) (info : ProcessInfo) : AlertLevel :=
  alertEvaluatePercentage (memoryMibOf info) config.processMemoryWarningThresholdMib
    config.processMemoryCriticalThresholdMib

/-- The level of a CPU usage. -/
def cpuLevelOf (config : AppConfig) (usage : Double) : AlertLevel :=
  alertEvaluatePercentage usage config.processCpuWarningThreshold
    config.processCpuCriticalThreshold

/-- The record of a process that was read. -/
def wasRead (config : AppConfig) (info : ProcessInfo) (p : MonitoredProcess) : MonitoredProcess :=
  { p with
    info := info
    available := true
    memoryMib := memoryMibOf info
    memoryLevel := memoryLevelOf config info
    memoryBaseline := ⟨memoryLevelOf config info, true⟩
    cpuUsageValid := false }

/-- The CPU usage since the sample before. -/
def usageSince (calls : ProcessCalls) (times : ProcessCpuTimes) (time : Timespec)
    (p : MonitoredProcess) : Double :=
  calculateProcessCpuUsage calls.ticksPerSecond p.previousCpuTimes times
    (calculateElapsedSeconds p.previousCpuSampleTime time)

/-- The record of a process whose CPU times were read: the first sample is only kept. -/
def wasSampled (config : AppConfig) (calls : ProcessCalls) (times : ProcessCpuTimes)
    (time : Timespec) (p : MonitoredProcess) : MonitoredProcess :=
  let usage := usageSince calls times time p
  if p.cpuSampleInitialized = false then
    { p with
      cpuSampleInitialized := true, previousCpuTimes := times, previousCpuSampleTime := time }
  else if (Double.finite 0).le usage then
    { p with
      cpuUsage := usage
      cpuUsageValid := true
      cpuLevel := cpuLevelOf config usage
      cpuBaseline := ⟨cpuLevelOf config usage, true⟩
      previousCpuTimes := times
      previousCpuSampleTime := time }
  else { p with cpuUsage := usage, previousCpuTimes := times, previousCpuSampleTime := time }

/-- The record behind the comparison with the availability before. -/
def wasCompared (p : MonitoredProcess) : MonitoredProcess :=
  { p with previousAvailable := p.available, availabilityInitialized := true }

/-- The ways of a call that returns 0, with the record that each leaves behind. -/
inductive Outcome (config : AppConfig) (calls : ProcessCalls) (p : MonitoredProcess) :
    MonitoredProcess → Prop where
  /-- The process is unavailable. -/
  | unavailable (hread : readProcessInfo calls.status (pidInRound calls p) = none) :
    Outcome config calls p
      (wasCompared { lookedUp calls p with available := false }.resetCpuSampling)
  /-- It is available, but its CPU times cannot be read. -/
  | unreadable (info : ProcessInfo)
      (hread : readProcessInfo calls.status (pidInRound calls p) = some info)
      (htimes : readProcessCpuTimes calls.stat (pidInRound calls p) = none) :
    Outcome config calls p (wasCompared
      { (wasRead config info (lookedUp calls p)).resetCpuSampling with
        memoryBaseline := ⟨memoryLevelOf config info, false⟩ })
  /-- Its CPU times are read. -/
  | sampled (info : ProcessInfo) (times : ProcessCpuTimes) (time : Timespec)
      (hread : readProcessInfo calls.status (pidInRound calls p) = some info)
      (htimes : readProcessCpuTimes calls.stat (pidInRound calls p) = some times)
      (hclock : calls.clock = some time) :
    Outcome config calls p
      (wasCompared (wasSampled config calls times time (wasRead config info (lookedUp calls p))))

/-! ### What is read -/

/-- What is read under a PID has that PID. -/
theorem readStatusLines_pid {pid : Int32} {lines : List Bytes} {f : StatusFields}
    {info : ProcessInfo} (h : readStatusLines pid lines f = some info) : info.pid = pid := by
  have hcomplete : ∀ {f : StatusFields}, f.complete? pid = some info → info.pid = pid := by
    intro f hf
    unfold StatusFields.complete? at hf
    simp only [Option.bind_eq_bind, Option.bind_eq_some_iff] at hf
    obtain ⟨_, -, _, -, _, -, _, -, hf⟩ := hf
    rw [← Option.some.inj hf]
  induction lines generalizing f with
  | nil => exact hcomplete h
  | cons line lines ih =>
    rw [readStatusLines] at h
    split at h
    · next hfound => exact hcomplete (hfound.trans h)
    · exact ih h

theorem readProcessInfo_some {proc : ProcFs} {pid : Int32} {info : ProcessInfo}
    (h : readProcessInfo proc pid = some info) : 0 < pid ∧ info.pid = pid := by
  unfold readProcessInfo at h
  split_ifs at h with hpid
  refine ⟨Int32.not_le.mp hpid, ?_⟩
  split at h
  · cases h
  · exact readStatusLines_pid h

/-! ### The blocks -/

variable {config : AppConfig} {calls : ProcessCalls} {p p' : MonitoredProcess} {ρ : Type}

/-- The level is kept, whether it is new or not. -/
theorem watchLevel_ok {baseline b : LevelBaseline} {level : AlertLevel}
    {changed : AlertLevel → Traced Action ρ PUnit}
    (h : (watchLevel baseline level changed).result = .ok b) : b = ⟨level, true⟩ := by
  obtain ⟨previous, initialized⟩ := baseline
  unfold watchLevel at h
  cases initialized with
  | false => exact (Except.ok.inj h).symm
  | true =>
    by_cases hlevel : level = previous
    · rw [if_neg (by simp), if_neg (not_not.mpr hlevel)] at h
      rw [← Except.ok.inj h, hlevel]
    · rw [if_neg (by simp), if_pos hlevel] at h
      obtain ⟨-, -, h⟩ := result_bind_ok.mp h
      exact (Except.ok.inj h).symm

theorem lookUpProcess_result (calls : ProcessCalls) (p : MonitoredProcess) :
    (lookUpProcess calls p).result = .ok (lookedUp calls p) := by
  unfold lookUpProcess lookedUp
  split_ifs
  · cases findProcessByName calls.scan p.targetName.bytes with
    | none => rfl
    | some pid => rfl
  · rfl

theorem currentPid_lookedUp (calls : ProcessCalls) (p : MonitoredProcess) :
    (lookedUp calls p).currentPid = pidInRound calls p := by
  exact ((lookUpProcess_yields calls p).ok _ (lookUpProcess_result calls p)).2.1

/-- A target without a PID is found by its name in this round: it is a new process. -/
def NewlyFound (calls : ProcessCalls) (p : MonitoredProcess) : Prop :=
  p.targetName.bytes ≠ [] ∧ p.currentPid = 0 ∧
    (findProcessByName calls.scan p.targetName.bytes).isSome

instance (calls : ProcessCalls) (p : MonitoredProcess) : Decidable (NewlyFound calls p) :=
  inferInstanceAs (Decidable (_ ∧ _))

/-- Of a new process nothing is known. -/
theorem lookedUp_of_newlyFound (h : NewlyFound calls p) :
    lookedUp calls p = { p with currentPid := pidInRound calls p }.resetRuntimeState := by
  obtain ⟨hname, hpid, hfound⟩ := h
  obtain ⟨pid, hpid'⟩ := Option.isSome_iff_exists.mp hfound
  unfold lookedUp pidInRound
  rw [if_pos ⟨hname, hpid⟩, if_pos ⟨hname, hpid⟩, hpid']
  rfl

/-- Otherwise the record stays. -/
theorem lookedUp_of_not_newlyFound (h : ¬ NewlyFound calls p) : lookedUp calls p = p := by
  unfold lookedUp
  split_ifs with hsearch
  · cases hfind : findProcessByName calls.scan p.targetName.bytes with
    | none => rfl
    | some pid => exact absurd ⟨hsearch.1, hsearch.2, by rw [hfind]; rfl⟩ h
  · rfl

theorem gradeMemory_ok (h : (gradeMemory config calls p).result = .ok p') :
    p' = { p with
      memoryMib := memoryMibOf p.info
      memoryLevel := memoryLevelOf config p.info
      memoryBaseline := ⟨memoryLevelOf config p.info, true⟩ } := by
  obtain ⟨-, -, h⟩ := result_bind_ok.mp h
  rw [result_emit_bind] at h
  obtain ⟨baseline, hbaseline, h⟩ := result_bind_ok.mp h
  obtain rfl := watchLevel_ok hbaseline
  exact (Except.ok.inj h).symm

theorem gradeProcessCpu_ok (h : (gradeProcessCpu config calls p).result = .ok p') :
    p' = { p with
      cpuUsageValid := true
      cpuLevel := cpuLevelOf config p.cpuUsage
      cpuBaseline := ⟨cpuLevelOf config p.cpuUsage, true⟩ } := by
  unfold gradeProcessCpu at h
  rw [result_emit_bind] at h
  obtain ⟨baseline, hbaseline, h⟩ := result_bind_ok.mp h
  obtain rfl := watchLevel_ok hbaseline
  exact (Except.ok.inj h).symm

theorem compareCpuSamples_ok {times : ProcessCpuTimes} {time : Timespec}
    (h : (compareCpuSamples config calls times time p).result = .ok p') :
    { p' with previousCpuTimes := times, previousCpuSampleTime := time } =
      wasSampled config calls times time p := by
  unfold compareCpuSamples at h
  unfold wasSampled
  by_cases hinitialized : p.cpuSampleInitialized = false
  · rw [if_pos (by simp [hinitialized])] at h
    obtain rfl := Except.ok.inj h
    exact (if_pos hinitialized).symm
  · rw [if_neg (by simpa using hinitialized), result_emit_bind] at h
    rw [if_neg hinitialized]
    dsimp only at h
    unfold usageSince
    split_ifs at h ⊢
    · obtain rfl := gradeProcessCpu_ok h
      rfl
    · obtain rfl := Except.ok.inj h
      rfl

/-- A record that has been compared already, with the same availability. -/
theorem wasCompared_eq_self (hinitialized : p.availabilityInitialized = true)
    (havailable : p.available = p.previousAvailable) : wasCompared p = p := by
  cases p
  simp_all [wasCompared]

theorem watchAvailability_ok (h : (watchAvailability config calls p).result = .ok p') :
    p' = wasCompared p := by
  unfold watchAvailability at h
  by_cases hinitialized : p.availabilityInitialized = true
  swap
  · rw [if_pos hinitialized] at h
    exact (Except.ok.inj h).symm
  rw [if_neg (not_not.mpr hinitialized)] at h
  by_cases hchanged : p.available = p.previousAvailable
  · rw [if_neg (not_not.mpr hchanged)] at h
    rw [wasCompared_eq_self hinitialized hchanged]
    exact (Except.ok.inj h).symm
  · rw [if_pos hchanged] at h
    obtain ⟨-, -, h⟩ := result_bind_ok.mp h
    obtain ⟨-, -, h⟩ := result_bind_ok.mp h
    have hsame : wasCompared { p with previousAvailable := p.available } =
        { p with previousAvailable := p.available } := wasCompared_eq_self hinitialized rfl
    exact (Except.ok.inj h).symm.trans hsame.symm

/-- The process is read or not. -/
theorem readProcess_ok (h : (readProcess config calls p).result = .ok p') :
    (readProcessInfo calls.status p.currentPid = none ∧ p' = { p with available := false }) ∨
      ∃ info, readProcessInfo calls.status p.currentPid = some info ∧
        { p' with cpuUsageValid := false } = wasRead config info p := by
  unfold readProcess at h
  cases hread : readProcessInfo calls.status p.currentPid with
  | none =>
    rw [hread, result_emit_bind] at h
    exact .inl ⟨rfl, (Except.ok.inj h).symm⟩
  | some info =>
    rw [hread, result_emit_bind] at h
    obtain rfl := gradeMemory_ok h
    exact .inr ⟨info, rfl, rfl⟩

/-- The CPU usage has nothing to do with the availability. -/
theorem monitorProcessCpu_keeps (h : (monitorProcessCpu config calls p).result = .ok p') :
    p'.available = p.available ∧ p'.previousAvailable = p.previousAvailable ∧
      p'.availabilityInitialized = p.availabilityInitialized := by
  unfold monitorProcessCpu sampleProcessCpu at h
  split_ifs at h with havailable
  · split at h
    · rw [result_emit_bind] at h
      obtain rfl := Except.ok.inj h
      exact ⟨rfl, rfl, rfl⟩
    · obtain ⟨time, -, h⟩ := result_bind_ok.mp h
      rw [result_emit_bind] at h
      obtain ⟨p₁, hp₁, h⟩ := result_bind_ok.mp h
      obtain rfl := Except.ok.inj h
      have hsampled := compareCpuSamples_ok hp₁
      rw [hsampled]
      unfold wasSampled
      dsimp only
      split_ifs <;> exact ⟨rfl, rfl, rfl⟩
  · obtain rfl := Except.ok.inj h
    exact ⟨rfl, rfl, rfl⟩

/-- **A call** that returns 0 has gone one of the three ways. -/
theorem monitorProcessOnce_outcome
    (h : (monitorProcessOnce config calls p).result = .ok p') : Outcome config calls p p' := by
  obtain ⟨p₁, hp₁, h⟩ := result_bind_ok.mp h
  obtain rfl := Except.ok.inj ((lookUpProcess_result calls p).symm.trans hp₁)
  obtain ⟨p₂, hp₂, h⟩ := result_bind_ok.mp h
  obtain ⟨p₃, hp₃, h⟩ := result_bind_ok.mp h
  obtain ⟨p₄, hp₄, h⟩ := result_bind_ok.mp h
  rw [result_emit_bind] at h
  obtain rfl := Except.ok.inj h
  obtain rfl := watchAvailability_ok hp₄
  have hpid := currentPid_lookedUp calls p
  obtain ⟨hread, rfl⟩ | ⟨info, hread, hp₂⟩ := readProcess_ok hp₂
  · rw [monitorProcessCpu, if_neg (by simp)] at hp₃
    obtain rfl := Except.ok.inj hp₃
    exact .unavailable (hpid ▸ hread)
  · have havailable : (wasRead config info (lookedUp calls p)).available = true := rfl
    rw [hp₂, monitorProcessCpu, if_pos havailable, sampleProcessCpu] at hp₃
    have hpid' : (wasRead config info (lookedUp calls p)).currentPid = pidInRound calls p := hpid
    rw [hpid'] at hp₃
    rw [hpid] at hread
    cases htimes : readProcessCpuTimes calls.stat (pidInRound calls p) with
    | none =>
      rw [htimes] at hp₃
      dsimp only at hp₃
      rw [result_emit_bind] at hp₃
      obtain rfl := Except.ok.inj hp₃
      exact .unreadable info hread htimes
    | some times =>
      rw [htimes] at hp₃
      obtain ⟨time, htime, hp₃⟩ := result_bind_ok.mp hp₃
      rw [result_orStop_ok] at htime
      rw [result_emit_bind] at hp₃
      obtain ⟨p₅, hp₅, hp₃⟩ := result_bind_ok.mp hp₃
      obtain rfl := Except.ok.inj hp₃
      rw [compareCpuSamples_ok hp₅]
      exact .sampled info times time hread htimes htime

/-! ### Events -/

/-- Where in a call an event comes from. -/
inductive EventOf (config : AppConfig) (calls : ProcessCalls) (p : MonitoredProcess) :
    Action → Prop where
  /-- From the look-up. -/
  | found (pid : Int32) : EventOf config calls p (.found pid)
  /-- From the reading of the process, which is unavailable. -/
  | unavailable (pid : Int32) : EventOf config calls p (.unavailable pid)
  /-- From the reading of the process. -/
  | infoRead (info : ProcessInfo) : EventOf config calls p (.infoRead info)
  /-- From the grading of its memory. -/
  | memory (info : ProcessInfo) {a : Action}
      (hread : readProcessInfo calls.status (pidInRound calls p) = some info)
      (h : a ∈ (gradeMemory config calls
        { lookedUp calls p with info := info, available := true }).events) :
    EventOf config calls p a
  /-- From the reading of its CPU times, which fails. -/
  | cpuTimesUnreadable (pid : Int32) : EventOf config calls p (.cpuTimesUnreadable pid)
  /-- From the reading of its CPU times. -/
  | cpuTimesRead (pid : Int32) (times : ProcessCpuTimes) (time : Timespec) :
    EventOf config calls p (.cpuTimesRead pid times time)
  /-- From the comparison with the sample before. -/
  | compared (info : ProcessInfo) (times : ProcessCpuTimes) (time : Timespec) {a : Action}
      (hread : readProcessInfo calls.status (pidInRound calls p) = some info)
      (htimes : readProcessCpuTimes calls.stat (pidInRound calls p) = some times)
      (hclock : calls.clock = some time)
      (h : a ∈ (compareCpuSamples config calls times time
        (wasRead config info (lookedUp calls p))).events) :
    EventOf config calls p a
  /-- From the comparison with the availability before. -/
  | availability (p₃ : MonitoredProcess) {a : Action}
      (h : a ∈ (watchAvailability config calls p₃).events) : EventOf config calls p a
  /-- From the end of the call. -/
  | monitored (p' : MonitoredProcess)
      (h : (monitorProcessOnce config calls p).result = .ok p') :
    EventOf config calls p (.monitored p')

/-- **The events of a call** come from its blocks. -/
theorem event_of_call {a : Action} (h : a ∈ (monitorProcessOnce config calls p).events) :
    EventOf config calls p a := by
  have hpid := currentPid_lookedUp calls p
  rcases mem_events_bind.mp h with h | ⟨p₁, hp₁, h⟩
  · obtain ⟨pid, rfl⟩ := lookUpProcess_emits calls p _ h
    exact .found pid
  obtain rfl := Except.ok.inj ((lookUpProcess_result calls p).symm.trans hp₁)
  rcases mem_events_bind.mp h with h | ⟨p₂, hp₂, h⟩
  · unfold readProcess at h
    cases hread : readProcessInfo calls.status (lookedUp calls p).currentPid with
    | none =>
      rw [hread] at h
      obtain rfl := List.mem_singleton.mp h
      exact .unavailable _
    | some info =>
      rw [hread] at h
      rcases List.mem_cons.mp h with rfl | h
      · exact .infoRead info
      · exact .memory info (hpid ▸ hread) h
  rcases mem_events_bind.mp h with h | ⟨p₃, hp₃, h⟩
  swap
  · rcases mem_events_bind.mp h with h | ⟨p₄, hp₄, h⟩
    · exact .availability p₃ h
    · obtain rfl := List.mem_singleton.mp h
      exact .monitored p₄ (result_bind_ok.mpr ⟨_, hp₁, result_bind_ok.mpr ⟨_, hp₂,
        result_bind_ok.mpr ⟨_, hp₃, result_bind_ok.mpr ⟨_, hp₄, rfl⟩⟩⟩⟩)
  obtain ⟨-, rfl⟩ | ⟨info, hread, hp₂⟩ := readProcess_ok hp₂
  · rw [monitorProcessCpu, if_neg (by simp)] at h
    cases h
  · have havailable : (wasRead config info (lookedUp calls p)).available = true := rfl
    have hpid' : (wasRead config info (lookedUp calls p)).currentPid = pidInRound calls p := hpid
    rw [hp₂, monitorProcessCpu, if_pos havailable, sampleProcessCpu, hpid'] at h
    rw [hpid] at hread
    cases htimes : readProcessCpuTimes calls.stat (pidInRound calls p) with
    | none =>
      rw [htimes] at h
      obtain rfl := List.mem_singleton.mp h
      exact .cpuTimesUnreadable _
    | some times =>
      rw [htimes] at h
      rcases mem_events_bind.mp h with h | ⟨time, hclock, h⟩
      · simp at h
      rw [result_orStop_ok] at hclock
      rcases List.mem_cons.mp h with rfl | h
      · exact .cpuTimesRead _ times time
      · rw [events_bind_pure] at h
        exact .compared info times time hread htimes hclock h

/-- The call returns the record that its last event shows. -/
theorem result_of_monitored (h : .monitored p' ∈ (monitorProcessOnce config calls p).events) :
    (monitorProcessOnce config calls p).result = .ok p' := by
  cases event_of_call h with
  | memory info hread h => cases gradeMemory_emits _ _ _ _ h
  | compared info times time hread htimes hclock h => cases compareCpuSamples_emits _ _ _ _ _ _ h
  | availability p₃ h =>
    exact absurd rfl (watchAvailability_emits (P := (· ≠ _)) (by simp) config calls p₃ _ h)
  | monitored p' h => exact h

end EdgeSentinel.Monitor
