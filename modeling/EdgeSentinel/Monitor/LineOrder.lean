import EdgeSentinel.Config.Order
import EdgeSentinel.Monitor.Frame

/-!
# The order of lines, and whom the daemon watches

The order of the lines in a configuration file can show in `process_name` only. The daemon looks
at `process_name` only while `process_names` is not in use, and then the order does not show.

## The model

* `targets` — whom the daemon watches under a configuration: the names of `process_names`, else
  `process_name`, else `process_pid`.

## What is proved

* `setUpProcesses_congr` — the configuration enters into the set-up of the processes through the
  targets only.
* `order_of_lines` — **the order of the lines** of a file that sets no key twice.
* `targets_startConfig_of_perm` — the same for the configuration that the daemon starts with.
-/

namespace EdgeSentinel.Monitor

open CLib Config Trace Trace.Traced

/-- A process to watch: the one with this name, or, if the name is empty, the one with this PID,
where 0 stands for the daemon itself. -/
structure Target where
  /-- `target_process_name`. -/
  name : Bytes
  /-- `process_pid`. -/
  pid : UInt32
  deriving DecidableEq, Repr

/-- The processes to watch, in order; none at all if they are too many. -/
def targets (config : AppConfig) : Option (List Target) :=
  if monitoredProcessCount config ≤ maxMonitoredProcesses then
    some ((processIndices (monitoredProcessCount config)).map fun i =>
      ⟨targetProcessName config i, config.processPid⟩)
  else none

variable {config config' : AppConfig}

/-! ### Where the targets are used -/

theorem length_processIndices {count : ℕ} (h : count ≤ maxMonitoredProcesses) :
    (processIndices count).length = count := by
  have hall : ∀ n : Fin (maxMonitoredProcesses + 1), (processIndices n.val).length = n.val := by
    decide
  exact hall ⟨count, Nat.lt_succ_of_le h⟩

/-- What the targets say of a configuration. -/
theorem targets_congr (h : targets config' = targets config)
    (hcount : monitoredProcessCount config ≤ maxMonitoredProcesses) :
    monitoredProcessCount config' = monitoredProcessCount config ∧
      ∀ i ∈ processIndices (monitoredProcessCount config),
        targetProcessName config' i = targetProcessName config i ∧
          config'.processPid = config.processPid := by
  unfold targets at h
  rw [if_pos hcount] at h
  split_ifs at h with hcount'
  have hmap := Option.some.inj h
  have hsame : monitoredProcessCount config' = monitoredProcessCount config := by
    have hlength := congrArg List.length hmap
    rwa [List.length_map, List.length_map, length_processIndices hcount',
      length_processIndices hcount] at hlength
  rw [hsame] at hmap
  exact ⟨hsame, fun i hi => Target.mk.inj (List.map_inj_left.mp hmap i hi)⟩

theorem initProcesses_congr {phase : Phase} {scans : ProcessIndex → ProcFs} {getpid : Int32}
    {is : List ProcessIndex} (processes : ProcessIndex → MonitoredProcess)
    (h : ∀ i ∈ is, targetProcessName config' i = targetProcessName config i ∧
      config'.processPid = config.processPid) :
    initProcesses phase config' scans getpid is processes =
      initProcesses phase config scans getpid is processes := by
  induction is generalizing processes with
  | nil => rfl
  | cons i is ih =>
    obtain ⟨hname, hpid⟩ := h i List.mem_cons_self
    unfold initProcesses initialProcessPid
    rw [hname, hpid]
    refine congrArg _ (funext fun p => ?_)
    exact ih _ fun j hj => h j (List.mem_cons_of_mem _ hj)

/-- **The set-up of the processes** knows the configuration by its targets. -/
theorem setUpProcesses_congr (h : targets config' = targets config) (phase : Phase)
    (scans : ProcessIndex → ProcFs) (getpid : Int32) (s : MainState) :
    setUpProcesses phase config' scans getpid s = setUpProcesses phase config scans getpid s := by
  unfold setUpProcesses
  dsimp only
  by_cases hcount : monitoredProcessCount config ≤ maxMonitoredProcesses
  · obtain ⟨hsame, hnames⟩ := targets_congr h hcount
    rw [hsame, initProcesses_congr _ hnames]
  · have hcount' : ¬ monitoredProcessCount config' ≤ maxMonitoredProcesses := by
      intro hle
      unfold targets at h
      rw [if_neg hcount, if_pos hle] at h
      cases h
    unfold Traced.check
    rw [if_neg hcount, if_neg hcount', stop_bind, stop_bind]

/-! ### Where `process_name` does not show -/

/-- While `process_names` is in use, the targets do not depend on `process_name`. -/
theorem targets_of_sameButName (h : SameButName config config') (hcount : config.processNameCount ≠ 0) :
    targets config' = targets config := by
  have hcount' : config'.processNameCount = config.processNameCount := by rw [h]
  have hpos : 0 < config.processNameCount := UInt32.pos_iff_ne_zero.mpr hcount
  have hname : ∀ i, targetProcessName config' i = targetProcessName config i := by
    intro i
    unfold targetProcessName
    rw [hcount', if_pos hpos, if_pos hpos, h]
  have hmonitored : monitoredProcessCount config' = monitoredProcessCount config := by
    unfold monitoredProcessCount
    rw [hcount']
  have hpid : config'.processPid = config.processPid := by rw [h]
  unfold targets
  simp only [hname, hmonitored, hpid]

/-- The validator does not look at `process_name`. -/
theorem configValidate_of_sameButName (h : SameButName config config') :
    configValidate config' = configValidate config := by
  rw [h]
  rfl

/-- The defaults have one target. -/
theorem targets_configSetDefaults (config : AppConfig) :
    targets (configSetDefaults config) = some [⟨[], 0⟩] := rfl

variable {lines lines' : List Bytes}

theorem targets_configLoad_of_perm (hperm : lines.Perm lines') (h : ∀ line ∈ lines, ShortLine line)
    (hkeys : (assignedKeys (fileText lines)).Nodup) (readError closes : Bool)
    (config : AppConfig) :
    targets (configLoad (some ⟨fileText lines', readError, closes⟩) config).2 =
      targets (configLoad (some ⟨fileText lines, readError, closes⟩) config).2 := by
  obtain ⟨hstatus, hname, heq⟩ := configLoad_of_perm hperm h hkeys readError closes config
  by_cases hboth : SetsBothNames (assignments (configLines (fileText lines)))
  swap
  · rw [heq hboth]
  cases hload : (configLoad (some ⟨fileText lines, readError, closes⟩) config).1 with
  | true =>
    refine targets_of_sameButName hname (processNameCount_configLoad_ne_zero hload ?_)
    rw [lines_fileText]
    exact hboth.2
  | false =>
    -- a file that is not accepted leaves the record as it was
    obtain ⟨-, -, hkeep⟩ := configLoad_lines ⟨fileText lines, readError, closes⟩ config
    obtain ⟨-, -, hkeep'⟩ := configLoad_lines ⟨fileText lines', readError, closes⟩ config
    rw [hkeep hload, hkeep' (hstatus.trans hload)]

/-- **The order of the lines** of a file that sets no key twice does not matter to the status of
`config_load`, nor to the targets, nor to the record, but perhaps to `process_name` where
`process_names` is set too. -/
theorem order_of_lines (hperm : lines.Perm lines') (h : ∀ line ∈ lines, ShortLine line)
    (hkeys : (assignedKeys (fileText lines)).Nodup) (readError closes : Bool)
    (config : AppConfig) :
    let r := configLoad (some ⟨fileText lines, readError, closes⟩) config
    let r' := configLoad (some ⟨fileText lines', readError, closes⟩) config
    r'.1 = r.1 ∧ SameButName r.2 r'.2 ∧
      (¬ SetsBothNames (assignments (configLines (fileText lines))) → r'.2 = r.2) ∧
      targets r'.2 = targets r.2 := by
  obtain ⟨hstatus, hname, heq⟩ := configLoad_of_perm hperm h hkeys readError closes config
  exact ⟨hstatus, hname, heq, targets_configLoad_of_perm hperm h hkeys readError closes config⟩

/-- Two lines, one of them not an assignment. -/
theorem order_of_lines_swap :
    let r := configLoad (some ⟨fileText [ascii "process_pid=7", ascii "# the shell"], false, true⟩)
      AppConfig.zero
    let r' := configLoad (some ⟨fileText [ascii "# the shell", ascii "process_pid=7"], false, true⟩)
      AppConfig.zero
    r'.1 = r.1 ∧ SameButName r.2 r'.2 ∧
      (¬ SetsBothNames (assignments (configLines (fileText
        [ascii "process_pid=7", ascii "# the shell"]))) → r'.2 = r.2) ∧
      targets r'.2 = targets r.2 :=
  order_of_lines (.swap _ _ _) (by decide) (by decide +kernel) false true AppConfig.zero

/-- **The daemon** watches the same processes, whatever the order of the lines, also where it
falls back to the defaults. -/
theorem targets_startConfig_of_perm (hperm : lines.Perm lines')
    (h : ∀ line ∈ lines, ShortLine line) (hkeys : (assignedKeys (fileText lines)).Nodup)
    (readError closes : Bool) (memory : AppConfig) :
    targets (startConfig memory (some ⟨fileText lines', readError, closes⟩)) =
      targets (startConfig memory (some ⟨fileText lines, readError, closes⟩)) := by
  obtain ⟨-, hname, -⟩ :=
    configLoad_of_perm hperm h hkeys readError closes (configSetDefaults memory)
  unfold startConfig
  dsimp only
  rw [configValidate_of_sameButName hname]
  split_ifs
  · rw [targets_configSetDefaults, targets_configSetDefaults]
  · exact targets_configLoad_of_perm hperm h hkeys readError closes _

end EdgeSentinel.Monitor
