import EdgeSentinel.Monitor.System
import EdgeSentinel.Trace.Traced

/-!
# One round of monitoring a process

`send_alert_change_notification` and `monitor_process_once` of `main.c`.

## The model

What the program does is a trace of `Action`s: what it learns from the operating system,
the levels it grades, and its calls of the logger and the notifier. `monitorProcessOnce`
is a `Traced` computation that returns the record of the process after the round, or
stops with the `MonitorFailure` for which the C function returns -1.

What the operating system answers to the calls made for one process in one round is a
`ProcessCalls`: every call has an answer of its own, and nothing relates them.

The long C function is cut at its own blocks: `lookUpProcess`, `gradeMemory`,
`sampleProcessCpu` with `gradeProcessCpu`, and `watchAvailability`. The block that keeps
a level's baseline is the same for every level (`watchLevel`).
-/

namespace EdgeSentinel.Monitor

open CLib Config Trace Trace.Traced

/-! ### Actions -/

/-- Which call of `logger_write`. -/
inductive LogCall where
  /-- `EdgeSentinel started`. -/
  | started
  /-- `System status changed: …`. -/
  | systemStatus
  /-- Every tenth round. -/
  | periodic
  /-- `Process memory status changed: …`. -/
  | processMemory
  /-- `Process CPU status changed: …`. -/
  | processCpu
  /-- `Monitored process recovered: …` or `Monitored process unavailable: …`. -/
  | availability
  deriving DecidableEq, Repr

/-- Where an attempt to reload the configuration can fail. -/
inductive ReloadStep where
  /-- `config_load`. -/
  | load
  /-- `config_validate`. -/
  | validate
  /-- `logger_init`. -/
  | logger
  /-- `read_network_info_filtered`. -/
  | network
  /-- `clock_gettime`. -/
  | clock
  deriving DecidableEq, Repr

/-- `OutputFormat`. -/
inductive OutputFormat where
  /-- `OUTPUT_FORMAT_TEXT`. -/
  | text
  /-- `OUTPUT_FORMAT_JSON`. -/
  | json
  deriving DecidableEq, Repr

/-- `MonitorSnapshot`: the results of a round. -/
structure MonitorSnapshot where
  /-- The time of day. -/
  currentTime : CurrentTime
  /-- The uptime. -/
  uptime : SystemUptime
  /-- The load averages. -/
  loadAverage : LoadAverage
  /-- The CPU usage. -/
  cpuUsagePercent : Double
  /-- Its level. -/
  cpuLevel : AlertLevel
  /-- All of the memory. -/
  totalMemoryKb : UInt64
  /-- What is available of it. -/
  availableMemoryKb : UInt64
  /-- What is used of it. -/
  usedMemoryKb : UInt64
  /-- The used part. -/
  memoryUsagePercent : Double
  /-- Its level. -/
  memoryLevel : AlertLevel
  /-- The size of the file system. -/
  totalDiskBytes : UInt64
  /-- What is used of it. -/
  usedDiskBytes : UInt64
  /-- What is available of it. -/
  availableDiskBytes : UInt64
  /-- The used part. -/
  diskUsagePercent : Double
  /-- Its level. -/
  diskLevel : AlertLevel
  /-- The highest of the three levels. -/
  systemLevel : AlertLevel
  /-- The bytes received. -/
  networkReceiveTotalBytes : UInt64
  /-- The bytes sent. -/
  networkTransmitTotalBytes : UInt64
  /-- Bytes received in a second. -/
  downloadBytesPerSecond : Double
  /-- Bytes sent in a second. -/
  uploadBytesPerSecond : Double
  /-- The monitored processes, `process_count` of them. -/
  processes : List MonitoredProcess
  deriving DecidableEq, Repr

/-- What the program does, or learns, at one point of its run. -/
inductive Action where
  /-- The daemon is about to enter its loop. -/
  | started
  /-- A new configuration is in effect. -/
  | reloaded
  /-- A new configuration was refused. -/
  | reloadFailed (step : ReloadStep)
  /-- `Target process found: … (PID: …)`. -/
  | found (pid : Int32)
  /-- The process was read. -/
  | infoRead (info : ProcessInfo)
  /-- The process could not be read: it is unavailable in this round. -/
  | unavailable (pid : Int32)
  /-- The CPU times of the process were read, and the clock. -/
  | cpuTimesRead (pid : Int32) (times : ProcessCpuTimes) (time : Timespec)
  /-- The CPU times of the process could not be read. -/
  | cpuTimesUnreadable (pid : Int32)
  /-- A call of `calculate_process_cpu_usage`. -/
  | cpuUsageCalculated (previous current : ProcessCpuTimes) (elapsedSeconds : ℚ) (usage : Double)
  /-- A call of `alert_evaluate_percentage`. -/
  | evaluated (metric : AlertMetric) (value : Double) (level : AlertLevel)
  /-- A call of `logger_write`. -/
  | logWrite (call : LogCall) (path level message : Bytes)
  /-- A call of `send_alert_change_notification`. -/
  | alertChanged (change : AlertChange)
  /-- A call of `notifier_send`. -/
  | notifierSend (event : AlertEvent) (command : Bytes)
  /-- `monitor_process_once` returns 0, with this record. -/
  | monitored (p : MonitoredProcess)
  /-- The network totals of the selected interfaces were read, and the clock. -/
  | networkSampled (interfaces : List Bytes) (info : NetworkInfo) (time : Timespec)
  /-- A call of `calculate_network_speed`. -/
  | speedCalculated (previous current : NetworkInfo) (elapsedSeconds : ℚ)
  /-- The results of a round are printed. -/
  | printed (format : OutputFormat) (snapshot : MonitorSnapshot)
      (download upload : NetworkSpeedDisplay)
  deriving DecidableEq, Repr

/-- Why `monitor_process_once` returns -1. -/
inductive MonitorFailure where
  /-- `Failed to format process notification target`. -/
  | notificationTarget
  /-- `Failed to format process memory status log`. -/
  | memoryLogFormat
  /-- `Failed to write process memory status log`. -/
  | memoryLogWrite
  /-- `clock_gettime` failed. -/
  | clock
  /-- `Failed to format process CPU status log`. -/
  | cpuLogFormat
  /-- `Failed to write process CPU status log`. -/
  | cpuLogWrite
  /-- `Failed to format process status log`. -/
  | availabilityLogFormat
  /-- `Failed to write process status log`. -/
  | availabilityLogWrite
  deriving DecidableEq, Repr

/-- What the operating system answers to the calls made for one process in one round. -/
structure ProcessCalls where
  /-- `/proc` as `find_process_by_name` sees it. -/
  scan : ProcFs
  /-- `/proc` as `read_process_info` sees it. -/
  status : ProcFs
  /-- `/proc` as `read_process_cpu_times` sees it. -/
  stat : ProcFs
  /-- `clock_gettime(CLOCK_MONOTONIC)`. -/
  clock : Option Timespec
  /-- `sysconf(_SC_CLK_TCK)`. -/
  ticksPerSecond : ℤ
  /-- The memory log record is written, if there is one. -/
  memoryLogWritten : Bool
  /-- The CPU log record is written, if there is one. -/
  cpuLogWritten : Bool
  /-- The availability log record is written, if there is one. -/
  availabilityLogWritten : Bool
  /-- `time(NULL)` for a memory alert. -/
  memoryAlertTime : ℤ
  /-- `time(NULL)` for a CPU alert. -/
  cpuAlertTime : ℤ

variable {ρ : Type}

/-! ### Notifications, logs and levels -/

/-- `send_alert_change_notification`, where `time(NULL)` returns `now`. -/
def sendAlertChangeNotification (config : AppConfig) (now : ℤ) (change : AlertChange) :
    Traced Action ρ PUnit := do
  emit (.alertChanged change)
  if config.notificationEnabled ≠ 1 then pure ⟨⟩
  else if change.previousLevel = change.currentLevel then pure ⟨⟩
  else
    match alertEventInit now change with
    | none => pure ⟨⟩
    | some event => emit (.notifierSend event config.notificationCommand.cstr)

/-- A call of `logger_write` that must succeed. -/
def writeLog (config : AppConfig) (call : LogCall) (level message : Bytes) (written : Bool)
    (failure : ρ) : Traced Action ρ PUnit := do
  emit (.logWrite call config.logFile.cstr level message)
  check failure written

/-- The size of the buffer `log_message`. -/
abbrev logMessageSize : ℕ := 256

/-- Keep the baseline of a level: the first level is only remembered, and `changed` is
called with the level before when it changes. -/
def watchLevel (baseline : LevelBaseline) (level : AlertLevel)
    (changed : AlertLevel → Traced Action ρ PUnit) : Traced Action ρ LevelBaseline :=
  if ¬ baseline.initialized then pure ⟨level, true⟩
  else if level ≠ baseline.previous then do
    changed baseline.previous
    pure { baseline with previous := level }
  else pure baseline

/-! ### The blocks of the round -/

/-- A target known by its name that has no PID is looked up. A new PID is a new process:
what is known of the old one is forgotten. -/
def lookUpProcess (calls : ProcessCalls) (p : MonitoredProcess) :
    Traced Action MonitorFailure MonitoredProcess :=
  if p.targetName.bytes ≠ [] ∧ p.currentPid = 0 then
    match findProcessByName calls.scan p.targetName.bytes with
    | none => pure p
    | some pid => do
      emit (.found pid)
      pure { p with currentPid := pid }.resetRuntimeState
  else pure p

/-- `notification_target`: `sleep PID=1234`. -/
def notificationTarget (p : MonitoredProcess) : Bytes :=
  (if p.info.name.bytes ≠ [] then p.info.name.bytes else ascii "process") ++ ascii " PID=" ++
    decimalInt p.currentPid.toInt

/-- The log message of a change of the memory level. -/
def memoryLogMessage (previous level : AlertLevel) (pid : Int32) (memoryMib : Double) : Bytes :=
  ascii "Process memory status changed: " ++ alertLevelToString previous ++ ascii " -> " ++
    alertLevelToString level ++ ascii " PID=" ++ decimalInt pid.toInt ++ ascii " Memory=" ++
    fixed2 memoryMib ++ ascii " MiB"

/-- The memory of an available process is graded. -/
def gradeMemory (config : AppConfig) (calls : ProcessCalls) (p : MonitoredProcess) :
    Traced Action MonitorFailure MonitoredProcess := do
  check .notificationTarget ((notificationTarget p).length < alertEventTargetLength)
  let memoryMib := Double.finite ((p.info.residentMemoryKb.toNat : ℚ) / 1024)
  let level := alertEvaluatePercentage memoryMib config.processMemoryWarningThresholdMib
    config.processMemoryCriticalThresholdMib
  emit (.evaluated .processMemory memoryMib level)
  let baseline ← watchLevel p.memoryBaseline level fun previous => do
    let message := memoryLogMessage previous level p.currentPid memoryMib
    check .memoryLogFormat (message.length < logMessageSize)
    writeLog config .processMemory (alertLevelToString level) message calls.memoryLogWritten
      .memoryLogWrite
    sendAlertChangeNotification config calls.memoryAlertTime
      ⟨.processMemory, notificationTarget p, previous, level, memoryMib, ascii "MiB"⟩
  pure { p with memoryMib := memoryMib, memoryLevel := level, memoryBaseline := baseline }

/-- The process is read; if it is available, its memory is graded. -/
def readProcess (config : AppConfig) (calls : ProcessCalls) (p : MonitoredProcess) :
    Traced Action MonitorFailure MonitoredProcess :=
  match readProcessInfo calls.status p.currentPid with
  | none => do
    emit (.unavailable p.currentPid)
    pure { p with available := false }
  | some info => do
    emit (.infoRead info)
    gradeMemory config calls { p with info := info, available := true }

/-- The log message of a change of the CPU level. -/
def cpuLogMessage (previous level : AlertLevel) (pid : Int32) (cpuUsage : Double) : Bytes :=
  ascii "Process CPU status changed: " ++ alertLevelToString previous ++ ascii " -> " ++
    alertLevelToString level ++ ascii " PID=" ++ decimalInt pid.toInt ++ ascii " CPU=" ++
    fixed2 cpuUsage ++ ascii "%"

/-- A valid CPU usage is graded. -/
def gradeProcessCpu (config : AppConfig) (calls : ProcessCalls) (p : MonitoredProcess) :
    Traced Action MonitorFailure MonitoredProcess := do
  let level := alertEvaluatePercentage p.cpuUsage config.processCpuWarningThreshold
    config.processCpuCriticalThreshold
  emit (.evaluated .processCpu p.cpuUsage level)
  let baseline ← watchLevel p.cpuBaseline level fun previous => do
    let message := cpuLogMessage previous level p.currentPid p.cpuUsage
    check .cpuLogFormat (message.length < logMessageSize)
    writeLog config .processCpu (alertLevelToString level) message calls.cpuLogWritten .cpuLogWrite
    sendAlertChangeNotification config calls.cpuAlertTime
      ⟨.processCpu, notificationTarget p, previous, level, p.cpuUsage, ascii "%"⟩
  pure { p with cpuUsageValid := true, cpuLevel := level, cpuBaseline := baseline }

/-- A sample of the CPU times is compared with the one before, if there is one. -/
def compareCpuSamples (config : AppConfig) (calls : ProcessCalls) (times : ProcessCpuTimes)
    (time : Timespec) (p : MonitoredProcess) : Traced Action MonitorFailure MonitoredProcess :=
  if ¬ p.cpuSampleInitialized then pure { p with cpuSampleInitialized := true }
  else do
    let elapsedSeconds := calculateElapsedSeconds p.previousCpuSampleTime time
    let usage := calculateProcessCpuUsage calls.ticksPerSecond p.previousCpuTimes times
      elapsedSeconds
    emit (.cpuUsageCalculated p.previousCpuTimes times elapsedSeconds usage)
    let p := { p with cpuUsage := usage }
    if (Double.finite 0).le usage then gradeProcessCpu config calls p else pure p

/-- The CPU times of an available process are sampled. If they cannot be read, the CPU
samples and the baseline of the memory level are forgotten. -/
def sampleProcessCpu (config : AppConfig) (calls : ProcessCalls) (p : MonitoredProcess) :
    Traced Action MonitorFailure MonitoredProcess :=
  match readProcessCpuTimes calls.stat p.currentPid with
  | none => do
    emit (.cpuTimesUnreadable p.currentPid)
    pure { p.resetCpuSampling with
      memoryBaseline := { p.memoryBaseline with initialized := false } }
  | some times => do
    let time ← orStop .clock calls.clock
    emit (.cpuTimesRead p.currentPid times time)
    let p ← compareCpuSamples config calls times time p
    pure { p with previousCpuTimes := times, previousCpuSampleTime := time }

/-- The CPU usage of the process: there is none for an unavailable one. -/
def monitorProcessCpu (config : AppConfig) (calls : ProcessCalls) (p : MonitoredProcess) :
    Traced Action MonitorFailure MonitoredProcess :=
  if p.available then sampleProcessCpu config calls p else pure p.resetCpuSampling

/-- The log message of a change of the availability, with its log level. -/
def availabilityLogMessage (p : MonitoredProcess) : Bytes × Bytes :=
  if p.available then
    (ascii "INFO", ascii "Monitored process recovered: PID=" ++ decimalInt p.info.pid.toInt ++
      ascii " Name=" ++ p.info.name.bytes ++ ascii " State=" ++ p.info.state.bytes ++
      ascii " Memory=" ++ decimal p.info.residentMemoryKb.toNat ++ ascii " kB")
  else
    (ascii "WARNING", ascii "Monitored process unavailable: PID=" ++ decimalInt p.currentPid.toInt)

/-- A change of the availability is logged. -/
def watchAvailability (config : AppConfig) (calls : ProcessCalls) (p : MonitoredProcess) :
    Traced Action MonitorFailure MonitoredProcess :=
  if ¬ p.availabilityInitialized then
    pure { p with previousAvailable := p.available, availabilityInitialized := true }
  else if p.available ≠ p.previousAvailable then do
    let (level, message) := availabilityLogMessage p
    check .availabilityLogFormat (message.length < logMessageSize)
    writeLog config .availability level message calls.availabilityLogWritten .availabilityLogWrite
    pure { p with previousAvailable := p.available }
  else pure p

/-- `monitor_process_once`. -/
def monitorProcessOnce (config : AppConfig) (calls : ProcessCalls) (p : MonitoredProcess) :
    Traced Action MonitorFailure MonitoredProcess := do
  let p ← lookUpProcess calls p
  let p ← readProcess config calls p
  let p ← monitorProcessCpu config calls { p with cpuUsageValid := false }
  let p ← watchAvailability config calls p
  emit (.monitored p)
  pure p

end EdgeSentinel.Monitor
