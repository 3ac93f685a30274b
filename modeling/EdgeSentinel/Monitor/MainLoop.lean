import EdgeSentinel.Monitor.Logger
import EdgeSentinel.Monitor.ProcessRound

/-!
# The daemon

`main` of `main.c`: the start, the reload on SIGHUP, and the sampling loop.

## The model

* `start` is everything before the loop. It is given what memory happens to hold
  (`StartCalls.memory`): the variables of `main` are not initialised by C.
* `iteration` is one turn of the loop after its `sleep`: a reload, if SIGHUP arrived,
  and a round. `daemon` is a start and any number of iterations. A SIGTERM or SIGINT
  ends the loop at its `sleep`, that is, after any number of iterations.
* What the operating system answers is given to every step (`StartCalls`,
  `ReloadCalls`, `RoundCalls`), call by call. Nothing relates the answers: `/proc`, the
  clocks and the disk may change between any two calls.
* A step that returns 1 from `main` stops the computation for an `Exit` reason.

The output format is a parameter here, and the configuration file is what `fopen` finds:
`CommandLine` has the command line that gives them. Printing is the action
`Action.printed` with the snapshot; `ProgressText` has the texts, with the progress messages
for which no action stands.
-/

namespace EdgeSentinel.Monitor

open CLib Config Trace Trace.Traced

/-- `MAX_MONITORED_PROCESSES`. -/
abbrev maxMonitoredProcesses : ℕ := 8

/-- The number of a monitored process. -/
abbrev ProcessIndex := Fin maxMonitoredProcesses

instance : NeZero maxMonitoredProcesses := ⟨by decide⟩

/-- `LOG_INTERVAL_SAMPLES`. -/
def logIntervalSamples : ℕ := 10

/-- For whom an action is taken. -/
inductive Source where
  /-- The system. -/
  | system
  /-- A monitored process. -/
  | process (i : ProcessIndex)
  deriving DecidableEq, Repr

/-- An action in the run of the daemon. -/
structure Event where
  /-- For whom. -/
  source : Source
  /-- The action. -/
  action : Action
  deriving DecidableEq, Repr

/-- The two places where the monitored processes are set up. -/
inductive Phase where
  /-- Before the loop. -/
  | startup
  /-- When a new configuration is applied. -/
  | reload
  deriving DecidableEq, Repr

/-- Why `main` returns 1. -/
inductive Exit where
  /-- `Too many monitored processes`. -/
  | tooManyProcesses (phase : Phase)
  /-- `Failed to initialize monitored process`. -/
  | processInit (phase : Phase) (i : ProcessIndex)
  /-- `sigaction` failed. -/
  | sigaction
  /-- `Failed to read initial CPU times`. -/
  | initialCpuTimes
  /-- `Failed to read initial network information`. -/
  | initialNetwork
  /-- `clock_gettime` failed before the loop. -/
  | initialClock
  /-- `Failed to initialize logger`. -/
  | logger
  /-- `Failed to write startup log`. -/
  | startupLog
  /-- `monitor_process_once` returned -1. -/
  | process (i : ProcessIndex) (failure : MonitorFailure)
  /-- `Failed to read current CPU times`. -/
  | cpuTimes
  /-- `Failed to calculate CPU usage`. -/
  | cpuUsage
  /-- `Failed to read current network information`. -/
  | network
  /-- `clock_gettime` failed in the loop. -/
  | clock
  /-- `Failed to calculate network speed`. -/
  | networkSpeed
  /-- `Failed to convert download speed`. -/
  | downloadSpeed
  /-- `Failed to convert upload speed`. -/
  | uploadSpeed
  /-- `Failed to read memory information`. -/
  | memory
  /-- `Failed to read disk information`. -/
  | disk
  /-- `Failed to format status change log`. -/
  | systemStatusLogFormat
  /-- `Failed to write status change log`. -/
  | systemStatusLog
  /-- `Failed to write monitoring log`. -/
  | periodicLog
  /-- `Failed to read system uptime`. -/
  | uptime
  /-- `Failed to read load average`. -/
  | loadAverage
  /-- `Failed to get current time`. -/
  | currentTime
  deriving DecidableEq, Repr

/-- The variables of `main` that outlive a turn of its loop, and the logger's
`current_log_max_size`. -/
structure MainState where
  /-- `config`. -/
  config : AppConfig
  /-- `reloaded_config`. -/
  reloadedConfig : AppConfig
  /-- `current_log_max_size`. -/
  currentLogMaxSize : UInt64
  /-- `monitored_processes`. -/
  processes : ProcessIndex → MonitoredProcess
  /-- `monitored_process_count`. -/
  processCount : ℕ
  /-- `active_process`. -/
  activeProcess : ProcessIndex
  /-- `previous_cpu`. -/
  previousCpu : CpuTimes
  /-- `previous_network`. -/
  previousNetwork : NetworkInfo
  /-- `previous_network_time`. -/
  previousNetworkTime : Timespec
  /-- `current_network`. -/
  currentNetwork : NetworkInfo
  /-- `current_network_time`. -/
  currentNetworkTime : Timespec
  /-- `network_baseline_reset`. -/
  networkBaselineReset : Bool
  /-- `previous_cpu_level` and `cpu_level_initialized`. -/
  cpuBaseline : LevelBaseline
  /-- `previous_memory_level` and `memory_level_initialized`. -/
  memoryBaseline : LevelBaseline
  /-- `previous_disk_level` and `disk_level_initialized`. -/
  diskBaseline : LevelBaseline
  /-- `previous_system_level` and `system_level_initialized`. -/
  systemBaseline : LevelBaseline
  /-- `log_sample_counter`. -/
  logSampleCounter : ℕ

/-! ### The monitored processes -/

/-- `target_process_name` of process `i`. -/
def targetProcessName (config : AppConfig) (i : ProcessIndex) : Bytes :=
  if 0 < config.processNameCount then (config.processNames i).cstr else config.processName.cstr

/-- What `monitored_process_count` is set to. -/
def monitoredProcessCount (config : AppConfig) : ℕ :=
  if 0 < config.processNameCount then config.processNameCount.toNat else 1

/-- `initial_process_pid` of process `i`. -/
def initialProcessPid (config : AppConfig) (scan : ProcFs) (getpid : Int32) (i : ProcessIndex) :
    Int32 :=
  if targetProcessName config i ≠ [] then
    (findProcessByName scan (targetProcessName config i)).getD 0
  else if config.processPid = 0 then getpid
  else config.processPid.toInt32

/-- The indices below `monitored_process_count`, in order. -/
def processIndices (count : ℕ) : List ProcessIndex :=
  (List.finRange maxMonitoredProcesses).filter fun i => i.val < count

/-- The loop that initialises the processes. -/
def initProcesses (phase : Phase) (config : AppConfig) (scans : ProcessIndex → ProcFs)
    (getpid : Int32) : List ProcessIndex → (ProcessIndex → MonitoredProcess) →
    Traced Event Exit (ProcessIndex → MonitoredProcess)
  | [], processes => pure processes
  | i :: is, processes => do
    let p ← orStop (.processInit phase i) (monitoredProcessInit (targetProcessName config i)
      config.processPid.toInt32 (initialProcessPid config (scans i) getpid i))
    initProcesses phase config scans getpid is (Function.update processes i p)

/-- The blocks of the start and of the reload that set the processes up; the two differ in
the messages they fail with. The loop that prints the processes leaves `active_process` at
the last one. -/
def setUpProcesses (phase : Phase) (config : AppConfig) (scans : ProcessIndex → ProcFs)
    (getpid : Int32) (s : MainState) : Traced Event Exit MainState := do
  let count := monitoredProcessCount config
  check (.tooManyProcesses phase) (count ≤ maxMonitoredProcesses)
  let processes ← initProcesses phase config scans getpid (processIndices count) s.processes
  pure { s with
    processes := processes
    processCount := count
    activeProcess := (processIndices count).getLastD 0 }

/-! ### The start -/

/-- What the start is given. -/
structure StartCalls where
  /-- What the memory holds. -/
  memory : MainState
  /-- The configuration file, if it can be opened. -/
  configFile : Option ConfigFile
  /-- `/proc` as `find_process_by_name` sees it, for each process. -/
  scans : ProcessIndex → ProcFs
  /-- `getpid()`. -/
  getpid : Int32
  /-- The three calls of `sigaction` succeed. -/
  sigactions : Bool
  /-- `/proc/stat`. -/
  procStat : Option Bytes
  /-- `/proc/net/dev`. -/
  procNetDev : Option Bytes
  /-- `clock_gettime(CLOCK_MONOTONIC)`. -/
  clock : Option Timespec
  /-- What the calls of `mkdir` come to, one after the other. -/
  mkdir : ℕ → MkdirResult
  /-- The startup record is written. -/
  startupLogWritten : Bool

/-- A disk on which the calls of `mkdir` come to `results`, one after the other; its state
is the number of calls so far. -/
def mkdirCalls (results : ℕ → MkdirResult) : Mkdir ℕ := fun _ n => (results n, n + 1)

/-- The configuration that is in effect after the start: the file, if it can be used, and
otherwise the defaults. -/
def startConfig (memory : AppConfig) (configFile : Option ConfigFile) : AppConfig :=
  let config := (configLoad configFile (configSetDefaults memory)).2
  if configValidate config ≠ none then configSetDefaults config else config

/-- `main` up to its loop. -/
def start (calls : StartCalls) : Traced Event Exit MainState := do
  let config := startConfig calls.memory.config calls.configFile
  let s ← setUpProcesses .startup config calls.scans calls.getpid
    { calls.memory with config := config, currentLogMaxSize := loggerDefaultMaxSizeBytes }
  check .sigaction calls.sigactions
  let previousCpu ← orStop .initialCpuTimes (readCpuTimes calls.procStat)
  let previousNetwork ← orStop .initialNetwork (readNetworkInfoFiltered config calls.procNetDev)
  let previousNetworkTime ← orStop .initialClock calls.clock
  let logger := loggerInit (mkdirCalls calls.mkdir) config.logFile.cstr config.logMaxSize
    s.currentLogMaxSize 0
  check .logger logger.succeeded
  emit ⟨.system, .logWrite .started config.logFile.cstr (ascii "INFO")
    (ascii "EdgeSentinel started")⟩
  check .startupLog calls.startupLogWritten
  emit ⟨.system, .started⟩
  pure { s with
    currentLogMaxSize := logger.currentLogMaxSize
    previousCpu := previousCpu
    previousNetwork := previousNetwork
    previousNetworkTime := previousNetworkTime
    networkBaselineReset := false
    cpuBaseline := .unset
    memoryBaseline := .unset
    diskBaseline := .unset
    systemBaseline := .unset
    logSampleCounter := 0 }

/-! ### The reload -/

/-- What an attempt to reload the configuration is given. -/
structure ReloadCalls where
  /-- The configuration file, if it can be opened. -/
  configFile : Option ConfigFile
  /-- What the calls of `mkdir` come to, one after the other. -/
  mkdir : ℕ → MkdirResult
  /-- `/proc/net/dev`. -/
  procNetDev : Option Bytes
  /-- `clock_gettime(CLOCK_MONOTONIC)`. -/
  clock : Option Timespec
  /-- `/proc` as `find_process_by_name` sees it, for each process. -/
  scans : ProcessIndex → ProcFs
  /-- `getpid()`. -/
  getpid : Int32

/-- The conditions of the reload, which are not without effect: the step that fails, if one
does, and the state after them. `logger_init` already stores the new size limit. -/
def attemptReload (calls : ReloadCalls) (s : MainState) : Option ReloadStep × MainState :=
  let (loaded, config) := configLoad calls.configFile (configSetDefaults s.reloadedConfig)
  let s := { s with reloadedConfig := config }
  if ¬ loaded then (some .load, s)
  else if configValidate config ≠ none then (some .validate, s)
  else
    let logger := loggerInit (mkdirCalls calls.mkdir) config.logFile.cstr config.logMaxSize
      s.currentLogMaxSize 0
    let s := { s with currentLogMaxSize := logger.currentLogMaxSize }
    if ¬ logger.succeeded then (some .logger, s)
    else
      match readNetworkInfoFiltered config calls.procNetDev with
      | none => (some .network, s)
      | some network =>
        let s := { s with currentNetwork := network }
        match calls.clock with
        | none => (some .clock, s)
        | some time => (none, { s with currentNetworkTime := time })

/-- The names of the interfaces that are counted; none counts all but the loopback. -/
def selectedInterfaces (config : AppConfig) : List Bytes :=
  usedNames config.networkInterfaceCount.toNat config.networkInterfaces

/-- The new configuration is applied. -/
def applyReload (calls : ReloadCalls) (s : MainState) : Traced Event Exit MainState := do
  emit ⟨.system, .networkSampled (selectedInterfaces s.reloadedConfig) s.currentNetwork
    s.currentNetworkTime⟩
  let s := { s with
    config := s.reloadedConfig
    cpuBaseline := { s.cpuBaseline with initialized := false }
    memoryBaseline := { s.memoryBaseline with initialized := false }
    diskBaseline := { s.diskBaseline with initialized := false }
    systemBaseline := { s.systemBaseline with initialized := false }
    previousNetwork := s.currentNetwork
    previousNetworkTime := s.currentNetworkTime
    networkBaselineReset := true }
  let s ← setUpProcesses .reload s.config calls.scans calls.getpid s
  emit ⟨.system, .reloaded⟩
  pure s

/-- The block of the loop that answers a SIGHUP. -/
def reload (calls : ReloadCalls) (s : MainState) : Traced Event Exit MainState :=
  match attemptReload calls s with
  | (some step, s) => do
    emit ⟨.system, .reloadFailed step⟩
    pure s
  | (none, s) => applyReload calls s

/-! ### The round -/

/-- What a round is given. -/
structure RoundCalls where
  /-- The answers for each process. -/
  processes : ProcessIndex → ProcessCalls
  /-- `/proc/stat`. -/
  procStat : Option Bytes
  /-- `time(NULL)` for a CPU alert. -/
  cpuAlertTime : ℤ
  /-- `/proc/net/dev`. -/
  procNetDev : Option Bytes
  /-- `clock_gettime(CLOCK_MONOTONIC)`. -/
  clock : Option Timespec
  /-- `/proc/meminfo`. -/
  procMeminfo : Option Bytes
  /-- `time(NULL)` for a memory alert. -/
  memoryAlertTime : ℤ
  /-- `statvfs("/")`. -/
  statvfs : Option Statvfs
  /-- `time(NULL)` for a disk alert. -/
  diskAlertTime : ℤ
  /-- The record of a change of the system's status is written, if there is one. -/
  systemStatusLogWritten : Bool
  /-- The periodic record is written, if there is one. -/
  periodicLogWritten : Bool
  /-- `/proc/uptime`. -/
  procUptime : Option Bytes
  /-- `/proc/loadavg`. -/
  procLoadavg : Option Bytes
  /-- The local time. -/
  currentTime : Option CurrentTime

/-- A turn of the loop over the monitored processes. -/
def monitorProcess (calls : RoundCalls) (s : MainState) (i : ProcessIndex) :
    Traced Event Exit MainState := do
  let p ← (monitorProcessOnce s.config (calls.processes i) (s.processes i)).rename
    (Event.mk (.process i)) (Exit.process i)
  pure { s with activeProcess := i, processes := Function.update s.processes i p }

/-- The loop over the monitored processes. -/
def monitorProcesses (calls : RoundCalls) (s : MainState) : Traced Event Exit MainState :=
  run (monitorProcess calls) s (processIndices s.processCount)

/-- A percentage of the system is graded, and a change of its level is notified. -/
def gradePercentage (config : AppConfig) (now : ℤ) (metric : AlertMetric) (target : Bytes)
    (percent warning critical : Double) (baseline : LevelBaseline) :
    Traced Action Exit (AlertLevel × LevelBaseline) := do
  let level := alertEvaluatePercentage percent warning critical
  emit (.evaluated metric percent level)
  let baseline ← watchLevel baseline level fun previous =>
    sendAlertChangeNotification config now ⟨metric, target, previous, level, percent, ascii "%"⟩
  pure (level, baseline)

/-- The CPU usage of the system: the current sample, the usage since the previous one, and
its level. -/
def gradeSystemCpu (calls : RoundCalls) (s : MainState) :
    Traced Action Exit (CpuTimes × Double × AlertLevel × MainState) := do
  let currentCpu ← orStop .cpuTimes (readCpuTimes calls.procStat)
  let cpuUsage := calculateCpuUsage s.previousCpu currentCpu
  check .cpuUsage (¬ cpuUsage.lt (.finite 0))
  let (level, baseline) ← gradePercentage s.config calls.cpuAlertTime .systemCpu (ascii "system")
    cpuUsage s.config.cpuWarningThreshold s.config.cpuCriticalThreshold s.cpuBaseline
  pure (currentCpu, cpuUsage, level, { s with cpuBaseline := baseline })

/-- The speed of the network and how it is shown. -/
structure NetworkSample where
  /-- The speed. -/
  speed : NetworkSpeed
  /-- The download speed, as shown. -/
  download : NetworkSpeedDisplay
  /-- The upload speed, as shown. -/
  upload : NetworkSpeedDisplay
  deriving DecidableEq, Repr

/-- The speed since the previous sample. Right after a reload there is none: the sample is
only a new baseline. -/
def measureNetworkSpeed (network : NetworkInfo) (time : Timespec) (s : MainState) :
    Traced Action Exit (NetworkSpeed × MainState) :=
  if s.networkBaselineReset then
    pure (⟨.finite 0, .finite 0⟩, { s with
      previousNetwork := network
      previousNetworkTime := time
      networkBaselineReset := false })
  else do
    let elapsedSeconds := calculateElapsedSeconds s.previousNetworkTime time
    emit (.speedCalculated s.previousNetwork network elapsedSeconds)
    let speed ← orStop .networkSpeed
      (calculateNetworkSpeed s.previousNetwork network elapsedSeconds)
    pure (speed, s)

/-- The network is sampled. -/
def sampleNetwork (calls : RoundCalls) (s : MainState) :
    Traced Action Exit (NetworkSample × MainState) := do
  let network ← orStop .network (readNetworkInfoFiltered s.config calls.procNetDev)
  let time ← orStop .clock calls.clock
  emit (.networkSampled (selectedInterfaces s.config) network time)
  let (speed, s) ← measureNetworkSpeed network time
    { s with currentNetwork := network, currentNetworkTime := time }
  let download ← orStop .downloadSpeed (convertNetworkSpeed speed.downloadBytesPerSec)
  let upload ← orStop .uploadSpeed (convertNetworkSpeed speed.uploadBytesPerSec)
  pure (⟨speed, download, upload⟩, s)

/-- The memory of the system is read and graded. -/
def gradeSystemMemory (calls : RoundCalls) (s : MainState) :
    Traced Action Exit (MemoryInfo × AlertLevel × MainState) := do
  let memory ← orStop .memory (getMemoryInfo calls.procMeminfo)
  let (level, baseline) ← gradePercentage s.config calls.memoryAlertTime .systemMemory
    (ascii "system") memory.usagePercent s.config.memoryWarningThreshold
    s.config.memoryCriticalThreshold s.memoryBaseline
  pure (memory, level, { s with memoryBaseline := baseline })

/-- The disk is read and graded. -/
def gradeDisk (calls : RoundCalls) (s : MainState) :
    Traced Action Exit (DiskInfo × AlertLevel × MainState) := do
  let disk ← orStop .disk (getDiskInfo calls.statvfs)
  let (level, baseline) ← gradePercentage s.config calls.diskAlertTime .disk (ascii "/")
    disk.usagePercent s.config.diskWarningThreshold s.config.diskCriticalThreshold s.diskBaseline
  pure (disk, level, { s with diskBaseline := baseline })

/-- The percentages of a log record: `CPU=…% Memory=…% Disk=…%`. -/
def percentagesMessage (cpuUsage memoryUsage diskUsage : Double) : Bytes :=
  ascii "CPU=" ++ fixed2 cpuUsage ++ ascii "% Memory=" ++ fixed2 memoryUsage ++ ascii "% Disk=" ++
    fixed2 diskUsage ++ ascii "%"

/-- The level of the system is watched: a change is logged. -/
def watchSystemLevel (calls : RoundCalls) (level : AlertLevel) (percentages : Bytes)
    (s : MainState) : Traced Action Exit MainState := do
  let baseline ← watchLevel s.systemBaseline level fun previous => do
    let message := ascii "System status changed: " ++ alertLevelToString previous ++
      ascii " -> " ++ alertLevelToString level ++ ascii " " ++ percentages
    check .systemStatusLogFormat (message.length < logMessageSize)
    writeLog s.config .systemStatus (alertLevelToString level) message
      calls.systemStatusLogWritten .systemStatusLog
  pure { s with systemBaseline := baseline }

/-- Every tenth round is logged. A message that is too long is cut. -/
def writePeriodicLog (calls : RoundCalls) (level : AlertLevel) (percentages : Bytes)
    (s : MainState) : Traced Action Exit MainState :=
  if logIntervalSamples ≤ s.logSampleCounter + 1 then do
    writeLog s.config .periodic (alertLevelToString level)
      (percentages.take (logMessageSize - 1)) calls.periodicLogWritten .periodicLog
    pure { s with logSampleCounter := 0 }
  else pure { s with logSampleCounter := s.logSampleCounter + 1 }

/-- The round after its loop over the processes: the system is sampled, graded and logged,
and the results are printed. -/
def monitorSystem (format : OutputFormat) (calls : RoundCalls) (s : MainState) :
    Traced Action Exit (CpuTimes × MainState) := do
  let (currentCpu, cpuUsage, cpuLevel, s) ← gradeSystemCpu calls s
  let (network, s) ← sampleNetwork calls s
  let (memory, memoryLevel, s) ← gradeSystemMemory calls s
  let (disk, diskLevel, s) ← gradeDisk calls s
  let systemLevel := alertGetHigherLevel (alertGetHigherLevel cpuLevel memoryLevel) diskLevel
  let percentages := percentagesMessage cpuUsage memory.usagePercent disk.usagePercent
  let s ← watchSystemLevel calls systemLevel percentages s
  let s ← writePeriodicLog calls systemLevel percentages s
  let uptimeSeconds ← orStop .uptime (getSystemUptime calls.procUptime)
  let loadAverage ← orStop .loadAverage (getLoadAverage calls.procLoadavg)
  let currentTime ← orStop .currentTime calls.currentTime
  let snapshot : MonitorSnapshot :=
    { currentTime := currentTime
      uptime := convertUptime uptimeSeconds
      loadAverage := loadAverage
      cpuUsagePercent := cpuUsage
      cpuLevel := cpuLevel
      totalMemoryKb := memory.totalKb
      availableMemoryKb := memory.availableKb
      usedMemoryKb := memory.usedKb
      memoryUsagePercent := memory.usagePercent
      memoryLevel := memoryLevel
      totalDiskBytes := disk.totalBytes
      usedDiskBytes := disk.usedBytes
      availableDiskBytes := disk.availableBytes
      diskUsagePercent := disk.usagePercent
      diskLevel := diskLevel
      systemLevel := systemLevel
      networkReceiveTotalBytes := s.currentNetwork.rxBytes
      networkTransmitTotalBytes := s.currentNetwork.txBytes
      downloadBytesPerSecond := network.speed.downloadBytesPerSec
      uploadBytesPerSecond := network.speed.uploadBytesPerSec
      processes := (processIndices s.processCount).map s.processes }
  emit (.printed format snapshot network.download network.upload)
  pure (currentCpu, s)

/-- The loop of the text output leaves `active_process` at the last process, like the loop
that monitored them. -/
def afterOutput (format : OutputFormat) (s : MainState) : MainState :=
  match format with
  | .text => { s with activeProcess := (processIndices s.processCount).getLastD s.activeProcess }
  | .json => s

/-- The clean-up behind the output: the PID of an unavailable target is forgotten. It looks
at `active_process` only. -/
def forgetUnavailable (s : MainState) : MainState :=
  if s.config.processName.cstr ≠ [] ∧ ¬ (s.processes s.activeProcess).available then
    let p := { s.processes s.activeProcess with currentPid := 0 }
    { s with processes := Function.update s.processes s.activeProcess p }
  else s

/-- A round of the loop. -/
def round (format : OutputFormat) (calls : RoundCalls) (s : MainState) :
    Traced Event Exit MainState := do
  let s ← monitorProcesses calls s
  let (currentCpu, s) ← (monitorSystem format calls s).rename (Event.mk .system) id
  let s := forgetUnavailable (afterOutput format s)
  pure { s with
    previousCpu := currentCpu
    previousNetwork := s.currentNetwork
    previousNetworkTime := s.currentNetworkTime }

/-! ### Runs -/

/-- What a turn of the loop is given. -/
structure Iteration where
  /-- SIGHUP arrived, and the configuration is reloaded. -/
  reload : Option ReloadCalls
  /-- The round. -/
  round : RoundCalls

/-- The reload of a turn of the loop, if SIGHUP arrived. -/
def reloadIfRequested (calls : Option ReloadCalls) (s : MainState) : Traced Event Exit MainState :=
  match calls with
  | some calls => reload calls s
  | none => pure s

/-- One turn of the loop. -/
def iteration (format : OutputFormat) (s : MainState) (calls : Iteration) :
    Traced Event Exit MainState := do
  let s ← reloadIfRequested calls.reload s
  round format calls.round s

/-- A start and some turns of the loop. -/
def daemon (format : OutputFormat) (calls : StartCalls) (iterations : List Iteration) :
    Traced Event Exit MainState := do
  let s ← start calls
  run (iteration format) s iterations

/-! ### A quiet system

A system on which every call succeeds, for concrete runs: only the processes in `/proc`, the
configuration file and the clock are chosen. -/

/-- `/proc/<pid>/status` of a process with the name `name`. -/
def quietStatus (name : Bytes) : Bytes :=
  ascii "Name:\t" ++ name ++ ascii "\nState:\tS\nPPid:\t1\nVmRSS:\t1024 kB\n"

/-- A `/proc` with these processes. Their CPU times cannot be read. -/
def quietProc (processes : List (Int32 × Bytes)) : ProcFs where
  entries := some (processes.map fun p => decimalInt p.1.toInt)
  status := fun pid => (processes.lookup pid).map quietStatus
  stat := fun _ => none

/-- `/proc/stat`. -/
def quietStat : Bytes := ascii "cpu 1 1 1 1 1 1 1 1\n"

/-- `/proc/net/dev`. -/
def quietNetDev : Bytes := ascii "Inter-|   Receive\n face |bytes\n"

/-- Memory that holds nothing but zeros. -/
def MainState.zero (config : AppConfig) : MainState where
  config := config
  reloadedConfig := config
  currentLogMaxSize := 0
  processes := fun _ => .fresh (.empty _) 0 0
  processCount := 0
  activeProcess := 0
  previousCpu := ⟨0, 0, 0, 0, 0, 0, 0, 0⟩
  previousNetwork := ⟨0, 0⟩
  previousNetworkTime := ⟨0, 0⟩
  currentNetwork := ⟨0, 0⟩
  currentNetworkTime := ⟨0, 0⟩
  networkBaselineReset := false
  cpuBaseline := .unset
  memoryBaseline := .unset
  diskBaseline := .unset
  systemBaseline := .unset
  logSampleCounter := 0

/-- A start at the time 0, with this configuration file. -/
def quietStart (memory : AppConfig) (file : Bytes) (proc : ProcFs) : StartCalls where
  memory := .zero memory
  configFile := some ⟨file, false, true⟩
  scans := fun _ => proc
  getpid := 1
  sigactions := true
  procStat := some quietStat
  procNetDev := some quietNetDev
  clock := some ⟨0, 0⟩
  mkdir := fun _ => .created
  startupLogWritten := true

/-- A reload of this file that succeeds. -/
def quietReload (file : Bytes) (proc : ProcFs) : ReloadCalls where
  configFile := some ⟨file, false, true⟩
  mkdir := fun _ => .created
  procNetDev := some quietNetDev
  clock := some ⟨5, 0⟩
  scans := fun _ => proc
  getpid := 1

/-- A round in which every process sees this `/proc`. -/
def quietProcess (proc : ProcFs) : ProcessCalls where
  scan := proc
  status := proc
  stat := proc
  clock := some ⟨0, 0⟩
  ticksPerSecond := 100
  memoryLogWritten := true
  cpuLogWritten := true
  availabilityLogWritten := true
  memoryAlertTime := 0
  cpuAlertTime := 0

/-- A round at the time `seconds`. -/
def quietRound (proc : ProcFs) (seconds : ℤ) : RoundCalls where
  processes := fun _ => quietProcess proc
  procStat := some quietStat
  cpuAlertTime := 0
  procNetDev := some quietNetDev
  clock := some ⟨seconds, 0⟩
  procMeminfo := some (ascii "MemTotal: 4 kB\nMemAvailable: 2 kB\n")
  memoryAlertTime := 0
  statvfs := some ⟨1, 2, 1, 1⟩
  diskAlertTime := 0
  systemStatusLogWritten := true
  periodicLogWritten := true
  procUptime := some (ascii "1.0 1.0\n")
  procLoadavg := some (ascii "0.0 0.0 0.0 1/1 1\n")
  currentTime := some ⟨2026, 1, 1, 0, 0, 0⟩

end EdgeSentinel.Monitor
