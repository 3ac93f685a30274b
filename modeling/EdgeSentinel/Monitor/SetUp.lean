import EdgeSentinel.Config.Valid
import EdgeSentinel.Monitor.Frame
import EdgeSentinel.Monitor.ProcessSearch

/-!
# Setting the processes up

The start and the reload set the processes up for the configuration in effect. The source
checks on the way what could go wrong: too many processes, a record that cannot be
initialised, too many interfaces. None of it ever does, because the configuration in
effect is always valid.

## What is proved

* `setUpProcesses_ok` — every process in use gets a fresh record, whatever was in its
  place; `setUpProcesses_eq` — for a usable configuration this does not fail.
* `Operating` — the invariant of the loop: the configuration is usable, and the processes
  are those of the configuration. `start_operating`, `reload_operating`, `round_operating`
  and `iteration_operating` are its steps.
* `daemon_operating` — in every run the configuration in effect is valid, and the exits
  that depend on it are not taken.
-/

namespace EdgeSentinel.Monitor

open CLib Config Trace Trace.Traced

/-! ### The PIDs -/

/-- `find_process_by_name` finds positive PIDs only. -/
theorem findProcessByName_pos {proc : ProcFs} {processName : Bytes} {pid : Int32}
    (h : findProcessByName proc processName = some pid) : 0 < pid := by
  unfold findProcessByName at h
  split at h
  · cases h
  · obtain ⟨name, -, hname⟩ := List.exists_of_findSome?_eq_some h
    rw [Int32.lt_iff_toInt_lt]
    exact (matchEntry_eq_some_iff.mp hname).pos

/-- A PID that is valid in the configuration is no negative `int`. -/
theorem toInt32_nonneg {pid : UInt32} (h : pid.toNat ≤ intMax) : 0 ≤ pid.toInt32 := by
  have hlt : 2 * pid.toBitVec.toNat < 2 ^ 32 := by
    have hmax : intMax = 2 ^ 31 - 1 := rfl
    have : pid.toBitVec.toNat = pid.toNat := rfl
    omega
  have hint : pid.toInt32.toInt = pid.toBitVec.toNat := BitVec.toInt_eq_toNat_of_lt hlt
  rw [Int32.le_iff_toInt_le, hint]
  exact Int.natCast_nonneg _

theorem not_lt_of_nonneg {pid : Int32} (h : 0 ≤ pid) : ¬ pid < 0 := by
  rw [Int32.le_iff_toInt_le] at h
  rw [Int32.lt_iff_toInt_lt]
  omega

variable {config : AppConfig} {getpid : Int32} {scans : ProcessIndex → ProcFs}

/-- The initial PID is no negative `int`. -/
theorem initialProcessPid_nonneg (h : Usable config) (hpid : 0 < getpid) (scan : ProcFs)
    (i : ProcessIndex) : 0 ≤ initialProcessPid config scan getpid i := by
  unfold initialProcessPid
  split_ifs
  · cases hf : findProcessByName scan (targetProcessName config i) with
    | none => decide
    | some pid => exact Int32.le_of_lt (findProcessByName_pos hf)
  · exact Int32.le_of_lt hpid
  · exact toInt32_nonneg h.processPid_le

/-! ### The names and the number of the processes -/

/-- The name of a process in use fits into its record. -/
theorem length_targetProcessName_le (h : Usable config) {i : ProcessIndex}
    (hi : i.val < monitoredProcessCount config) :
    (targetProcessName config i).length ≤ processNameMax := by
  unfold monitoredProcessCount at hi
  unfold targetProcessName
  split_ifs at hi ⊢ with hc
  · exact Nat.le_of_lt_succ (CharArray.length_cstr_lt (h.processName_in_use hi).2)
  · exact Nat.le_of_lt_succ (CharArray.length_cstr_lt h.terminated)

/-- There is a process to monitor, and there are not too many. -/
theorem monitoredProcessCount_mem (h : Usable config) :
    1 ≤ monitoredProcessCount config ∧ monitoredProcessCount config ≤ maxMonitoredProcesses := by
  unfold monitoredProcessCount
  split_ifs with hc
  · exact ⟨UInt32.lt_iff_toNat_lt.mp hc, h.processNameCount_le⟩
  · exact ⟨le_refl 1, by decide⟩

/-- If a process has a name, `process_name` is set. -/
theorem processName_ne_nil (h : Usable config) {i : ProcessIndex}
    (hi : targetProcessName config i ≠ []) : config.processName.cstr ≠ [] := by
  unfold targetProcessName at hi
  split_ifs at hi with hc
  · exact h.named fun he => by simp [he] at hc
  · exact hi

/-! ### Setting up -/

/-- The record of a process that was set up. -/
def freshProcess (config : AppConfig) (scans : ProcessIndex → ProcFs) (getpid : Int32)
    (i : ProcessIndex) : MonitoredProcess :=
  .fresh (.snprintf _ (targetProcessName config i)) config.processPid.toInt32
    (initialProcessPid config (scans i) getpid i)

theorem zero_not_mem_targetProcessName (config : AppConfig) (i : ProcessIndex) :
    0 ∉ targetProcessName config i := by
  unfold targetProcessName
  split_ifs <;> exact CharArray.zero_not_mem_cstr _

/-- The name of a process in use is stored whole. -/
theorem targetName_freshProcess (h : Usable config) {i : ProcessIndex}
    (hi : i.val < monitoredProcessCount config) :
    (freshProcess config scans getpid i).targetName.bytes = targetProcessName config i :=
  CString.bytes_snprintf (zero_not_mem_targetProcessName config i)
    (length_targetProcessName_le h hi)

/-- A record that is initialised is fresh. -/
theorem monitoredProcessInit_some {targetName : Bytes} {configuredPid currentPid : Int32}
    {p : MonitoredProcess} (h : monitoredProcessInit targetName configuredPid currentPid = some p) :
    p = .fresh (.snprintf _ targetName) configuredPid currentPid := by
  unfold monitoredProcessInit at h
  split_ifs at h
  exact (Option.some.inj h).symm

theorem initProcesses_ok {phase : Phase} {is : List ProcessIndex}
    {processes processes' : ProcessIndex → MonitoredProcess}
    (h : (initProcesses phase config scans getpid is processes).result = .ok processes') :
    processes' = fun i => if i ∈ is then freshProcess config scans getpid i else processes i := by
  induction is generalizing processes with
  | nil =>
    obtain rfl := Except.ok.inj h
    simp
  | cons i is ih =>
    obtain ⟨p, hp, h⟩ := result_bind_ok.mp h
    obtain rfl := monitoredProcessInit_some (result_orStop_ok.mp hp)
    rw [ih h]
    funext j
    by_cases hj : j ∈ is
    · simp [hj]
    · by_cases hji : j = i
      · subst hji
        simp [hj, freshProcess]
      · simp [hj, hji]

/-- The state with the processes of a configuration set up. -/
def setUp (config : AppConfig) (scans : ProcessIndex → ProcFs) (getpid : Int32)
    (s : MainState) : MainState :=
  { s with
    processes := fun i => if i.val < monitoredProcessCount config
      then freshProcess config scans getpid i else s.processes i
    processCount := monitoredProcessCount config
    activeProcess := (processIndices (monitoredProcessCount config)).getLastD 0 }

/-- **Setting up**, if it does not fail: every process in use gets a fresh record, whatever
was in its place. -/
theorem setUpProcesses_ok {phase : Phase} {s s' : MainState}
    (h : (setUpProcesses phase config scans getpid s).result = .ok s') :
    s' = setUp config scans getpid s := by
  obtain ⟨-, -, h⟩ := result_bind_ok.mp h
  obtain ⟨processes, hp, h⟩ := result_bind_ok.mp h
  obtain rfl := Except.ok.inj h
  rw [initProcesses_ok hp]
  simp only [mem_processIndices]
  rfl

theorem monitoredProcessInit_eq (h : Usable config) (hpid : 0 < getpid) {i : ProcessIndex}
    (hi : i.val < monitoredProcessCount config) :
    monitoredProcessInit (targetProcessName config i) config.processPid.toInt32
      (initialProcessPid config (scans i) getpid i) = some (freshProcess config scans getpid i) := by
  have hlen := length_targetProcessName_le h hi
  rw [monitoredProcessInit, if_neg, if_neg (by omega)]
  · rfl
  · rw [not_or]
    exact ⟨not_lt_of_nonneg (toInt32_nonneg h.processPid_le),
      not_lt_of_nonneg (initialProcessPid_nonneg h hpid _ _)⟩

theorem initProcesses_eq {phase : Phase} (h : Usable config) (hpid : 0 < getpid)
    {is : List ProcessIndex} (his : ∀ i ∈ is, i.val < monitoredProcessCount config)
    (processes : ProcessIndex → MonitoredProcess) :
    initProcesses phase config scans getpid is processes =
      pure fun i => if i ∈ is then freshProcess config scans getpid i else processes i := by
  induction is generalizing processes with
  | nil => simp [initProcesses]
  | cons i is ih =>
    rw [initProcesses, monitoredProcessInit_eq h hpid (his i List.mem_cons_self), orStop,
      pure_bind, ih fun j hj => his j (List.mem_cons_of_mem _ hj)]
    congr 1
    funext j
    by_cases hj : j ∈ is
    · simp [hj]
    · by_cases hji : j = i
      · subst hji
        simp [hj]
      · simp [hj, hji]

/-- Setting up does not fail for a usable configuration. -/
theorem setUpProcesses_eq {phase : Phase} (h : Usable config) (hpid : 0 < getpid)
    (s : MainState) :
    setUpProcesses phase config scans getpid s = pure (setUp config scans getpid s) := by
  rw [setUpProcesses, check, if_pos (monitoredProcessCount_mem h).2, pure_bind,
    initProcesses_eq h hpid fun i hi => mem_processIndices.mp hi, pure_bind]
  simp only [mem_processIndices]
  rfl

/-- Setting the processes up is no action. -/
theorem setUpProcesses_emits {P : Event → Prop} (phase : Phase) (config : AppConfig)
    (scans : ProcessIndex → ProcFs) (getpid : Int32) (s : MainState) :
    (setUpProcesses phase config scans getpid s).Emits P := by
  have hinit : ∀ (is : List ProcessIndex) (processes : ProcessIndex → MonitoredProcess),
      (initProcesses phase config scans getpid is processes).Emits P := by
    intro is
    induction is with
    | nil => exact fun processes => .pure
    | cons i is ih => exact fun processes => .orStop_bind fun p => ih _
  exact .check_bind (.bind (hinit _ _) fun _ _ => .pure)

/-! ### The invariant of the loop -/

/-- The configuration is usable, and the processes are those of the configuration. -/
structure Operating (s : MainState) : Prop where
  /-- The configuration is usable. -/
  usable : Usable s.config
  /-- There are as many processes as the configuration asks for. -/
  count : s.processCount = monitoredProcessCount s.config
  /-- They have the names of the configuration. -/
  names : ∀ i, i.val < s.processCount →
    (s.processes i).targetName.bytes = targetProcessName s.config i

variable {s s' : MainState} {format : OutputFormat}

namespace Operating

theorem one_le (h : Operating s) : 1 ≤ s.processCount :=
  h.count ▸ (monitoredProcessCount_mem h.usable).1

theorem count_le (h : Operating s) : s.processCount ≤ maxMonitoredProcesses :=
  h.count ▸ (monitoredProcessCount_mem h.usable).2

end Operating

theorem usable_startConfig (memory : AppConfig) (configFile : Option ConfigFile) :
    Usable (startConfig memory configFile) := by
  unfold startConfig
  dsimp only
  split_ifs with h
  · exact usable_defaults _
  · exact usable_configLoad configFile (not_not.mp h)

/-- A state whose processes were just set up for its configuration. -/
theorem operating_of_setUp (h : Usable s'.config)
    (hprocesses : s'.processes = (setUp s'.config scans getpid s).processes)
    (hcount : s'.processCount = monitoredProcessCount s'.config) : Operating s' where
  usable := h
  count := hcount
  names := fun i hi => by
    rw [hcount] at hi
    rw [hprocesses]
    show (if i.val < monitoredProcessCount s'.config then _ else _ :
      MonitoredProcess).targetName.bytes = _
    rw [if_pos hi]
    exact targetName_freshProcess h hi

/-- The state at the end of the start. -/
def started (calls : StartCalls) (config : AppConfig) (previousCpu : CpuTimes)
    (previousNetwork : NetworkInfo) (previousNetworkTime : Timespec) : MainState :=
  { setUp config calls.scans calls.getpid { calls.memory with config := config } with
    currentLogMaxSize := config.logMaxSize
    previousCpu := previousCpu
    previousNetwork := previousNetwork
    previousNetworkTime := previousNetworkTime
    networkBaselineReset := false
    cpuBaseline := .unset
    memoryBaseline := .unset
    diskBaseline := .unset
    systemBaseline := .unset
    logSampleCounter := 0 }

/-- **The start**, if it does not fail: the processes are set up for the configuration in
effect, which also gives the limit of the log size, no level has been seen, and the network was
sampled with this configuration. -/
theorem start_samples {calls : StartCalls} (h : (start calls).result = .ok s) :
    ∃ previousCpu previousNetwork previousNetworkTime,
      readNetworkInfoFiltered (startConfig calls.memory.config calls.configFile) calls.procNetDev =
        some previousNetwork ∧ calls.clock = some previousNetworkTime ∧
      s = started calls (startConfig calls.memory.config calls.configFile) previousCpu
        previousNetwork previousNetworkTime := by
  have husable := usable_startConfig calls.memory.config calls.configFile
  obtain ⟨s₁, hs₁, h⟩ := result_bind_ok.mp h
  obtain rfl := setUpProcesses_ok hs₁
  obtain ⟨-, -, h⟩ := result_bind_ok.mp h
  obtain ⟨previousCpu, -, h⟩ := result_bind_ok.mp h
  obtain ⟨previousNetwork, hnetwork, h⟩ := result_bind_ok.mp h
  obtain ⟨previousNetworkTime, htime, h⟩ := result_bind_ok.mp h
  rw [result_orStop_ok] at hnetwork htime
  obtain ⟨-, -, h⟩ := result_bind_ok.mp h
  rw [result_emit_bind] at h
  obtain ⟨-, -, h⟩ := result_bind_ok.mp h
  rw [result_emit_bind] at h
  obtain rfl := Except.ok.inj h
  refine ⟨previousCpu, previousNetwork, previousNetworkTime, hnetwork, htime, ?_⟩
  have hlimit := loggerInit_currentLogMaxSize (mkdirCalls calls.mkdir)
    loggerDefaultMaxSizeBytes 0 (Usable.logFile_ne_nil husable.valid)
    (Usable.logMaxSize_ne_zero husable.valid)
  have hstarted : ∀ t : MainState, ∀ limit, limit = t.currentLogMaxSize →
      { t with currentLogMaxSize := limit } = t := by
    rintro t _ rfl
    rfl
  exact hstarted (started calls _ previousCpu previousNetwork previousNetworkTime) _ hlimit

/-- The state behind the start. -/
theorem start_ok {calls : StartCalls} (h : (start calls).result = .ok s) :
    ∃ previousCpu previousNetwork previousNetworkTime,
      s = started calls (startConfig calls.memory.config calls.configFile) previousCpu
        previousNetwork previousNetworkTime := by
  obtain ⟨previousCpu, previousNetwork, previousNetworkTime, -, -, hs⟩ := start_samples h
  exact ⟨previousCpu, previousNetwork, previousNetworkTime, hs⟩

/-- The start ends in an operating state. -/
theorem start_operating {calls : StartCalls} (h : (start calls).result = .ok s) :
    Operating s := by
  obtain ⟨_, _, _, rfl⟩ := start_ok h
  exact operating_of_setUp (usable_startConfig calls.memory.config calls.configFile) rfl rfl

/-- The start does not stop while it sets up the processes. -/
theorem start_notSetUp {calls : StartCalls} (hpid : 0 < calls.getpid) :
    (start calls).Yields (fun _ => True) Exit.NotSetUp := by
  have husable := usable_startConfig calls.memory.config calls.configFile
  unfold start
  dsimp only
  rw [setUpProcesses_eq husable hpid, pure_bind]
  refine .check_bind (fun _ => ?_) fun _ => id
  refine .orStop_bind (fun previousCpu _ => ?_) fun _ => id
  refine .orStop_bind (fun previousNetwork _ => ?_) fun _ => id
  refine .orStop_bind (fun previousNetworkTime _ => ?_) fun _ => id
  refine .check_bind (fun _ => ?_) fun _ => id
  exact .emit_bind (.check_bind (fun _ => .emit_bind (.pure trivial)) fun _ => id)

/-! ### The reload -/

/-- The record a reload reads: the file over the defaults. -/
def reloadConfig (calls : ReloadCalls) (s : MainState) : AppConfig :=
  (configLoad calls.configFile (configSetDefaults s.reloadedConfig)).2

/-- The file of a reload is accepted: it can be loaded, and it is valid. -/
def ReloadAccepted (calls : ReloadCalls) (s : MainState) : Prop :=
  (configLoad calls.configFile (configSetDefaults s.reloadedConfig)).1 = true ∧
    configValidate (reloadConfig calls s) = none

/-- What an attempt to reload comes to. With a file that is not accepted, only the record
read last changes. With one that is, the limit of the log size is the new one, whatever
happens then. -/
theorem attemptReload_cases (calls : ReloadCalls) (s : MainState) :
    (¬ ReloadAccepted calls s ∧ ∃ step,
      attemptReload calls s = (some step, { s with reloadedConfig := reloadConfig calls s })) ∨
    (ReloadAccepted calls s ∧ ∃ step network time,
      attemptReload calls s = (step, { s with
        reloadedConfig := reloadConfig calls s
        currentLogMaxSize := (reloadConfig calls s).logMaxSize
        currentNetwork := network
        currentNetworkTime := time }) ∧
      (step = none ↔
        (loggerInit (mkdirCalls calls.mkdir) (reloadConfig calls s).logFile.cstr
          (reloadConfig calls s).logMaxSize s.currentLogMaxSize 0).succeeded = true ∧
        readNetworkInfoFiltered (reloadConfig calls s) calls.procNetDev = some network ∧
        calls.clock = some time)) := by
  unfold attemptReload ReloadAccepted reloadConfig
  dsimp only
  generalize configLoad calls.configFile (configSetDefaults s.reloadedConfig) = loaded
  obtain ⟨loaded, config⟩ := loaded
  by_cases hload : loaded = true
  swap
  · exact .inl ⟨fun h => hload h.1, .load, if_pos hload⟩
  rw [if_neg (not_not.mpr hload)]
  by_cases hvalid : configValidate config = none
  swap
  · exact .inl ⟨fun h => hvalid h.2, .validate, if_pos hvalid⟩
  rw [if_neg (not_not.mpr hvalid)]
  refine .inr ⟨⟨hload, hvalid⟩, ?_⟩
  have hlimit := loggerInit_currentLogMaxSize (mkdirCalls calls.mkdir) s.currentLogMaxSize
    0 (Usable.logFile_ne_nil hvalid)
    (Usable.logMaxSize_ne_zero hvalid)
  rw [hlimit]
  by_cases hlogger : (loggerInit (mkdirCalls calls.mkdir) config.logFile.cstr config.logMaxSize
    s.currentLogMaxSize 0).succeeded = true
  swap
  · refine ⟨some .logger, s.currentNetwork, s.currentNetworkTime, if_pos hlogger, ?_⟩
    simp [hlogger]
  rw [if_neg (not_not.mpr hlogger)]
  cases hnetwork : readNetworkInfoFiltered config calls.procNetDev with
  | none => exact ⟨some .network, s.currentNetwork, s.currentNetworkTime, rfl, by simp⟩
  | some network =>
    cases hclock : calls.clock with
    | none => exact ⟨some .clock, network, s.currentNetworkTime, rfl, by simp⟩
    | some time => exact ⟨none, network, time, rfl, by simp [hlogger]⟩

theorem usable_reloadConfig {calls : ReloadCalls} (h : ReloadAccepted calls s) :
    Usable (reloadConfig calls s) :=
  usable_configLoad calls.configFile h.2

/-- The state behind a reload that is applied. -/
def appliedReload (calls : ReloadCalls) (s : MainState) : MainState :=
  setUp s.reloadedConfig calls.scans calls.getpid { s with
    config := s.reloadedConfig
    cpuBaseline := { s.cpuBaseline with initialized := false }
    memoryBaseline := { s.memoryBaseline with initialized := false }
    diskBaseline := { s.diskBaseline with initialized := false }
    systemBaseline := { s.systemBaseline with initialized := false }
    previousNetwork := s.currentNetwork
    previousNetworkTime := s.currentNetworkTime
    networkBaselineReset := true }

theorem applyReload_ok {calls : ReloadCalls} (h : (applyReload calls s).result = .ok s') :
    s' = appliedReload calls s := by
  rw [applyReload, result_emit_bind] at h
  obtain ⟨s₁, hs₁, h⟩ := result_bind_ok.mp h
  rw [result_emit_bind] at h
  obtain rfl := Except.ok.inj h
  exact setUpProcesses_ok hs₁

/-- **A reload** that does not stop the daemon has failed and left the configuration and the
processes alone, or it is applied, with a file that is accepted. -/
theorem reload_ok {calls : ReloadCalls} (h : (reload calls s).result = .ok s') :
    (∃ step, attemptReload calls s = (some step, s') ∧
      s'.config = s.config ∧ s'.processes = s.processes ∧ s'.processCount = s.processCount) ∨
    (ReloadAccepted calls s ∧ ∃ s₁, attemptReload calls s = (none, s₁) ∧
      s₁.reloadedConfig = reloadConfig calls s ∧ s' = appliedReload calls s₁) := by
  obtain ⟨-, step, hstep⟩ | ⟨hacc, step, network, time, hstep, -⟩ := attemptReload_cases calls s
  · rw [reload, hstep, result_emit_bind] at h
    obtain rfl := Except.ok.inj h
    exact .inl ⟨step, hstep, rfl, rfl, rfl⟩
  · cases step with
    | some step =>
      rw [reload, hstep, result_emit_bind] at h
      obtain rfl := Except.ok.inj h
      exact .inl ⟨step, hstep, rfl, rfl, rfl⟩
    | none =>
      rw [reload, hstep] at h
      exact .inr ⟨hacc, _, hstep, rfl, applyReload_ok h⟩

theorem reload_operating {calls : ReloadCalls} (hs : Operating s)
    (h : (reload calls s).result = .ok s') : Operating s' := by
  obtain ⟨step, -, hc, hp, hn⟩ | ⟨hacc, s₁, -, hconfig, rfl⟩ := reload_ok h
  · exact ⟨hc ▸ hs.usable, by rw [hn, hc, hs.count], fun i hi => by
      rw [hp, hc]
      exact hs.names i (hn ▸ hi)⟩
  · have husable : Usable s₁.reloadedConfig := hconfig ▸ usable_reloadConfig hacc
    exact operating_of_setUp husable rfl rfl

/-- A reload does not stop the daemon. -/
theorem reload_notSetUp {calls : ReloadCalls} (hpid : 0 < calls.getpid) (s : MainState) :
    (reload calls s).Yields (fun _ => True) Exit.NotSetUp := by
  unfold reload
  obtain ⟨-, step, hstep⟩ | ⟨hacc, step, network, time, hstep, -⟩ := attemptReload_cases calls s
  · rw [hstep]
    exact .emit_bind (.pure trivial)
  · rw [hstep]
    cases step with
    | some step => exact .emit_bind (.pure trivial)
    | none =>
      refine .emit_bind ?_
      dsimp only
      rw [setUpProcesses_eq (usable_reloadConfig hacc) hpid, pure_bind]
      exact .emit_bind (.pure trivial)

/-! ### The loop -/

theorem round_operating {calls : RoundCalls} (hs : Operating s)
    (h : (round format calls s).result = .ok s') : Operating s' := by
  have hround := round_ok hs.one_le hs.count_le h
  refine ⟨hround.config ▸ hs.usable, by rw [hround.processCount, hround.config, hs.count],
    fun i hi => ?_⟩
  rw [hround.processCount] at hi
  obtain ⟨p, hp, heq⟩ := hround.monitored i hi
  rw [heq, hround.config, ← hs.names i hi, ← (monitorProcessOnce_ok hp).targetName]
  unfold forgetIf
  split_ifs <;> rfl

theorem round_notSetUp (calls : RoundCalls) (s : MainState) :
    (round format calls s).Yields (fun _ => True) Exit.NotSetUp := by
  refine .seq (monitorProcesses_yields calls s) fun s₁ => .seq (.rename ?_) fun _ => .pure trivial
  exact (monitorSystem_yields format calls s₁).mono (fun _ _ => trivial) fun _ => id

theorem reloadIfRequested_operating {calls : Option ReloadCalls} (hs : Operating s)
    (h : (reloadIfRequested calls s).result = .ok s') : Operating s' := by
  cases calls with
  | none =>
    obtain rfl := Except.ok.inj h
    exact hs
  | some calls => exact reload_operating hs h

theorem iteration_operating {calls : Iteration} (hs : Operating s)
    (h : (iteration format s calls).result = .ok s') : Operating s' := by
  obtain ⟨s₁, hs₁, h⟩ := result_bind_ok.mp h
  exact round_operating (reloadIfRequested_operating hs hs₁) h

/-- Every state in which the loop can be at its `sleep` is operating. -/
theorem daemon_ok_operating {calls : StartCalls} {iterations : List Iteration}
    (h : (daemon format calls iterations).result = .ok s) : Operating s := by
  obtain ⟨s₀, hs₀, h⟩ := result_bind_ok.mp h
  exact run_inv (fun _ _ _ hs => iteration_operating hs) (start_operating hs₀) h

/-- What a run is given about the daemon's own PID. -/
def Iteration.PidPositive (calls : Iteration) : Prop :=
  ∀ reload, calls.reload = some reload → 0 < reload.getpid

theorem iteration_notSetUp {calls : Iteration} (hpid : calls.PidPositive) (s : MainState) :
    (iteration format s calls).Yields (fun _ => True) Exit.NotSetUp := by
  refine .seq ?_ fun s₁ => round_notSetUp calls.round s₁
  unfold reloadIfRequested
  split
  · rename_i reload hreload
    exact reload_notSetUp (hpid reload hreload) s
  · exact .pure trivial

/-- **The configuration in effect is valid**, in every run: at every `sleep` it is one that
`config_validate` accepts, with one to eight processes whose names are stored whole, a PID
that is no negative `int`, and no more interfaces than there is room for. The exits that
stand for the opposite are never taken, neither at the start nor at a reload. -/
theorem daemon_operating (format : OutputFormat) (calls : StartCalls) (iterations : List Iteration)
    (hpid : 0 < calls.getpid) (hpids : ∀ it ∈ iterations, it.PidPositive) :
    (∀ s, (daemon format calls iterations).result = .ok s →
      configValidate s.config = none ∧
      (1 ≤ s.processCount ∧ s.processCount ≤ maxMonitoredProcesses) ∧
      (∀ i, i.val < s.processCount →
        (s.processes i).targetName.bytes = targetProcessName s.config i) ∧
      0 ≤ s.config.processPid.toInt32 ∧
      s.config.networkInterfaceCount.toNat ≤ maxNetworkInterfaces) ∧
    (∀ r, (daemon format calls iterations).result = .error r →
      (∀ phase, r ≠ .tooManyProcesses phase) ∧ ∀ phase i, r ≠ .processInit phase i) ∧
    (startConfig calls.memory.config calls.configFile).networkInterfaceCount.toNat ≤
      maxNetworkInterfaces ∧
    (∀ s reload, ReloadAccepted reload s →
      (reloadConfig reload s).networkInterfaceCount.toNat ≤ maxNetworkInterfaces) := by
  refine ⟨fun s hs => ?_, fun r hr => ?_,
    (usable_startConfig calls.memory.config calls.configFile).networkInterfaceCount_le,
    fun s reload hacc => (usable_reloadConfig hacc).networkInterfaceCount_le⟩
  · have h := daemon_ok_operating hs
    exact ⟨h.usable.valid, ⟨h.one_le, h.count_le⟩, h.names,
      toInt32_nonneg h.usable.processPid_le, h.usable.networkInterfaceCount_le⟩
  · have hrun : (daemon format calls iterations).Yields (fun _ => True) Exit.NotSetUp :=
      .seq (start_notSetUp hpid) fun s =>
        .run (fun s it hit _ => iteration_notSetUp (hpids it hit) s) trivial
    have h := hrun.error r hr
    exact ⟨fun phase he => h (he ▸ trivial), fun phase i he => h (he ▸ trivial)⟩

/-- A run of one round with one process. -/
theorem daemon_operating_once :
    ∃ s, (daemon .json (quietStart .zero (ascii "process_names=a\n") (quietProc [(7, ascii "a")]))
      [⟨none, quietRound (quietProc [(7, ascii "a")]) 1⟩]).result = .ok s ∧
    configValidate s.config = none ∧ s.processCount = 1 := by
  have hok : ((daemon .json (quietStart .zero (ascii "process_names=a\n")
      (quietProc [(7, ascii "a")])) [⟨none, quietRound (quietProc [(7, ascii "a")]) 1⟩]).result.map
      fun s => s.processCount) = .ok 1 := by decide +kernel
  have h := daemon_operating .json (quietStart .zero (ascii "process_names=a\n")
    (quietProc [(7, ascii "a")])) [⟨none, quietRound (quietProc [(7, ascii "a")]) 1⟩] (by decide)
    (by simp [Iteration.PidPositive])
  obtain ⟨s, hs, hcount⟩ := ok_of_map_ok hok
  exact ⟨s, hs, (h.1 s hs).1, hcount⟩

end EdgeSentinel.Monitor
