import EdgeSentinel.Monitor.Alert

/-!
# Reading processes

`process_monitor.c`: the record of a monitored process, and the readers of `/proc` that
fill it.

## The model

What the readers see of the operating system is a `ProcFs`: the names `readdir` lists
in `/proc`, and what `/proc/<pid>/status` and `/proc/<pid>/stat` deliver, where they can
be opened. Every call of a reader is given a `ProcFs` of its own, as `/proc` may look
different at every call.

The strings of the records are `CString`s: the source always terminates them.
-/

namespace EdgeSentinel.Monitor

open CLib

/-- `PROCESS_NAME_LENGTH`, without the NUL. -/
abbrev processNameMax : ℕ := 255

/-- `PROCESS_STATE_LENGTH`, without the NUL. -/
abbrev processStateMax : ℕ := 63

/-- `ProcessInfo`. -/
structure ProcessInfo where
  /-- The PID. -/
  pid : Int32
  /-- The PID of the parent. -/
  parentPid : Int32
  /-- The name. -/
  name : CString processNameMax
  /-- The state. -/
  state : CString processStateMax
  /-- `VmRSS`, in kB. -/
  residentMemoryKb : UInt64
  deriving DecidableEq, Repr

/-- `ProcessInfo` of zeros. -/
def ProcessInfo.zero : ProcessInfo := ⟨0, 0, .empty _, .empty _, 0⟩

/-- `ProcessCpuTimes`. -/
structure ProcessCpuTimes where
  /-- Clock ticks in user mode. -/
  userTicks : UInt64
  /-- Clock ticks in kernel mode. -/
  systemTicks : UInt64
  deriving DecidableEq, Repr

/-- `struct timespec`. -/
structure Timespec where
  /-- Seconds. -/
  sec : ℤ
  /-- Nanoseconds. -/
  nsec : ℤ
  deriving DecidableEq, Repr

/-- `MonitoredProcess`. -/
structure MonitoredProcess where
  /-- The configured name, empty for a target known by its PID. -/
  targetName : CString processNameMax
  /-- The configured PID. -/
  configuredPid : Int32
  /-- The PID that is monitored; 0 while none has been found. -/
  currentPid : Int32
  /-- What was read last. -/
  info : ProcessInfo
  /-- The resident memory in MiB. -/
  memoryMib : Double
  /-- The CPU usage. -/
  cpuUsage : Double
  /-- The CPU times read last. -/
  previousCpuTimes : ProcessCpuTimes
  /-- When they were read. -/
  previousCpuSampleTime : Timespec
  /-- There are such times. -/
  cpuSampleInitialized : Bool
  /-- The CPU usage is valid. -/
  cpuUsageValid : Bool
  /-- The process is available. -/
  available : Bool
  /-- It was available in the round before. -/
  previousAvailable : Bool
  /-- There was a round before. -/
  availabilityInitialized : Bool
  /-- The alert level of the CPU usage. -/
  cpuLevel : AlertLevel
  /-- `previous_cpu_level` and `cpu_level_initialized`. -/
  cpuBaseline : LevelBaseline
  /-- The alert level of the memory. -/
  memoryLevel : AlertLevel
  /-- `previous_memory_level` and `memory_level_initialized`. -/
  memoryBaseline : LevelBaseline
  deriving DecidableEq, Repr

/-- `MonitoredProcess` of zeros, but for its name and its PIDs. -/
def MonitoredProcess.fresh (targetName : CString processNameMax) (configuredPid currentPid : Int32) :
    MonitoredProcess where
  targetName := targetName
  configuredPid := configuredPid
  currentPid := currentPid
  info := .zero
  memoryMib := .finite 0
  cpuUsage := .finite 0
  previousCpuTimes := ⟨0, 0⟩
  previousCpuSampleTime := ⟨0, 0⟩
  cpuSampleInitialized := false
  cpuUsageValid := false
  available := false
  previousAvailable := false
  availabilityInitialized := false
  cpuLevel := .normal
  cpuBaseline := .unset
  memoryLevel := .normal
  memoryBaseline := .unset

/-- `monitored_process_init`: the record it leaves behind, if it returns 0. A name that
`snprintf` would cut is refused. -/
def monitoredProcessInit (targetName : Bytes) (configuredPid currentPid : Int32) :
    Option MonitoredProcess :=
  if configuredPid < 0 ∨ currentPid < 0 then none
  else if processNameMax < targetName.length then none
  else some (.fresh (.snprintf _ targetName) configuredPid currentPid)

/-- `monitored_process_reset_runtime_state`. -/
def MonitoredProcess.resetRuntimeState (p : MonitoredProcess) : MonitoredProcess :=
  { p with
    info := .zero
    memoryMib := .finite 0
    cpuUsage := .finite 0
    previousCpuTimes := ⟨0, 0⟩
    previousCpuSampleTime := ⟨0, 0⟩
    cpuSampleInitialized := false
    cpuUsageValid := false
    available := false
    previousAvailable := false
    availabilityInitialized := false
    cpuLevel := .normal
    cpuBaseline := .unset
    memoryLevel := .normal
    memoryBaseline := .unset }

/-- `monitored_process_reset_cpu_sampling`. -/
def MonitoredProcess.resetCpuSampling (p : MonitoredProcess) : MonitoredProcess :=
  { p with
    previousCpuTimes := ⟨0, 0⟩
    previousCpuSampleTime := ⟨0, 0⟩
    cpuUsage := .finite 0
    cpuSampleInitialized := false
    cpuUsageValid := false
    cpuLevel := .normal
    cpuBaseline := .unset }

/-! ### The readers -/

/-- `/proc/<pid>/stat`, opened: what it delivers, and whether `fclose` succeeds. -/
structure StatFile where
  /-- The bytes delivered. -/
  content : Bytes
  /-- `fclose` succeeds. -/
  closes : Bool
  deriving DecidableEq, Repr

/-- What a reader sees of `/proc`. -/
structure ProcFs where
  /-- The names `readdir` lists, if `opendir` succeeds. -/
  entries : Option (List Bytes)
  /-- What `/proc/<pid>/status` delivers, if it can be opened. -/
  status : Int32 → Option Bytes
  /-- `/proc/<pid>/stat`, if it can be opened. -/
  stat : Int32 → Option StatFile

/-- What `read_process_info` has found so far. -/
structure StatusFields where
  /-- `result.name`, once found. -/
  name : Option (CString processNameMax)
  /-- `result.state`, once found. -/
  state : Option (CString processStateMax)
  /-- `result.parent_pid`, once found. -/
  parentPid : Option Int32
  /-- `result.resident_memory_kb`, once found. -/
  residentMemoryKb : Option UInt64
  deriving DecidableEq, Repr

/-- The record that is complete once all four fields are found. -/
def StatusFields.complete? (pid : Int32) (f : StatusFields) : Option ProcessInfo := do
  some ⟨pid, ← f.parentPid, ← f.name, ← f.state, ← f.residentMemoryKb⟩

/-- The text behind a label: its leading blanks and tabs are skipped, and it ends at the
first CR or LF. -/
def labelText (text : Bytes) : Bytes :=
  (text.dropWhile fun b => b = 0x20 || b = 0x09).takeWhile fun b => b ≠ 0x0d && b ≠ 0x0a

/-- One line of the status file. -/
def readStatusLine (line : Bytes) (f : StatusFields) : StatusFields :=
  match scanLiteral (ascii "Name:") line with
  | some text =>
    if labelText text = [] then f else { f with name := some (.snprintf _ (labelText text)) }
  | none =>
    match scanLiteral (ascii "State:") line with
    | some text =>
      if labelText text = [] then f else { f with state := some (.snprintf _ (labelText text)) }
    | none =>
      match scanLiteral (ascii "PPid:") line with
      | some text =>
        match scanInt text with
        | some (v, _) => { f with parentPid := some v }
        | none => f
      | none =>
        match scanLiteral (ascii "VmRSS:") line with
        | some text =>
          match scanUnsigned text with
          | some (v, _) => { f with residentMemoryKb := some v }
          | none => f
        | none => f

/-- The loop of `read_process_info` over the lines: it ends when everything is found. -/
def readStatusLines (pid : Int32) : List Bytes → StatusFields → Option ProcessInfo
  | [], f => f.complete? pid
  | line :: lines, f =>
    let f := readStatusLine (cstr line) f
    match f.complete? pid with
    | some info => some info
    | none => readStatusLines pid lines f

/-- `read_process_info`: the record, if it returns 0. -/
def readProcessInfo (proc : ProcFs) (pid : Int32) : Option ProcessInfo :=
  if pid ≤ 0 then none
  else
    match proc.status pid with
    | none => none
    | some content => readStatusLines pid (fgetsPieces 512 content) ⟨none, none, none, none⟩

/-- `is_pid_directory_name`. -/
def isPidDirectoryName (name : Bytes) : Bool := name ≠ [] && name.all isdigit

/-- The PID and the record of a process whose name is wanted, if the directory entry
`name` is one. -/
def matchEntry (proc : ProcFs) (processName name : Bytes) : Option Int32 :=
  if isPidDirectoryName name then
    let (value, rest, _) := strtol longMax name
    if rest ≠ [] ∨ value ≤ 0 ∨ (intMax : ℤ) < value then none
    else
      match readProcessInfo proc (Int32.ofInt value) with
      | some info => if info.name.bytes = processName then some (Int32.ofInt value) else none
      | none => none
  else none

/-- `find_process_by_name`: the PID it stores, if it returns 0. -/
def findProcessByName (proc : ProcFs) (processName : Bytes) : Option Int32 :=
  match proc.entries with
  | none => none
  | some entries => entries.findSome? (matchEntry proc processName)

/-- The text behind the field at its start, with the blanks in front of it; nothing if
there is no field. -/
def skipField (s : Bytes) : Option Bytes :=
  let t := s.dropWhile isspace
  if t = [] then none else some (t.dropWhile fun b => ¬ isspace b)

/-- The text behind the first `n` fields. -/
def skipFields : ℕ → Bytes → Option Bytes
  | 0, s => some s
  | n + 1, s => (skipField s).bind (skipFields n)

/-- A tick count at the start of `s`, and the text behind it. -/
def readTicks (s : Bytes) : Option (UInt64 × Bytes) :=
  let t := s.dropWhile isspace
  if t = [] then none
  else
    let (value, rest, range) := strtoul ulongMax t
    if rest = t ∨ range then none else some (UInt64.ofNat value, rest)

/-- `read_process_cpu_times`: the times, if it returns 0. -/
def readProcessCpuTimes (proc : ProcFs) (pid : Int32) : Option ProcessCpuTimes :=
  if pid ≤ 0 then none
  else do
    let file ← proc.stat pid
    let line ← (fgetsPieces 4096 file.content).head?
    if ¬ file.closes then none
    else
      let (_, behind) ← strrchr 0x29 (cstr line)
      let state := behind.dropWhile isspace
      if state = [] then none
      else
        let s ← skipFields 10 state.tail
        let (userTicks, s) ← readTicks s
        let (systemTicks, _) ← readTicks s
        some ⟨userTicks, systemTicks⟩

/-- `calculate_elapsed_seconds`. -/
def calculateElapsedSeconds (start stop : Timespec) : ℚ :=
  (stop.sec - start.sec : ℤ) + (stop.nsec - start.nsec : ℤ) / 1000000000

/-- `calculate_process_cpu_usage`, where `sysconf(_SC_CLK_TCK)` returns `ticksPerSecond`. -/
def calculateProcessCpuUsage (ticksPerSecond : ℤ) (previous current : ProcessCpuTimes)
    (elapsedSeconds : ℚ) : Double :=
  let previousTotalTicks := previous.userTicks + previous.systemTicks
  let currentTotalTicks := current.userTicks + current.systemTicks
  if elapsedSeconds ≤ 0 then .finite (-1)
  else if currentTotalTicks < previousTotalTicks then .finite (-1)
  else if ticksPerSecond ≤ 0 then .finite (-1)
  else
    let deltaTicks := currentTotalTicks - previousTotalTicks
    .finite ((deltaTicks.toNat : ℚ) / ticksPerSecond / elapsedSeconds * 100)

end EdgeSentinel.Monitor
