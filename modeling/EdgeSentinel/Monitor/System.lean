import EdgeSentinel.Config.Model
import EdgeSentinel.Monitor.Process

/-!
# Reading the system

`cpu_monitor.c`, `system_monitor.c`, `disk_monitor.c`, `system_status.c` and
`network.c`: the readers of `/proc/stat`, `/proc/meminfo`, `/proc/uptime`,
`/proc/loadavg` and `/proc/net/dev`, `statvfs`, and the arithmetic on what they read.

A file is what it delivers, or none where it cannot be opened. Counters are 64-bit and
wrap; percentages and speeds are exact.
-/

namespace EdgeSentinel.Monitor

open CLib Config

/-! ### CPU -/

/-- `CpuTimes`. -/
structure CpuTimes where
  /-- Time in user mode. -/
  user : UInt64
  /-- Time in user mode with low priority. -/
  nice : UInt64
  /-- Time in kernel mode. -/
  system : UInt64
  /-- Idle time. -/
  idle : UInt64
  /-- Idle time waiting for input or output. -/
  iowait : UInt64
  /-- Time in interrupts. -/
  irq : UInt64
  /-- Time in soft interrupts. -/
  softirq : UInt64
  /-- Time taken by other virtual machines. -/
  steal : UInt64
  deriving DecidableEq, Repr

/-- `read_cpu_times`: the times, if it returns 0. -/
def readCpuTimes (procStat : Option Bytes) : Option CpuTimes := do
  let s ← scanLiteral (ascii "cpu") (← procStat)
  match ← scanUnsigneds 8 s with
  | ([user, nice, system, idle, iowait, irq, softirq, steal], _) =>
    some ⟨user, nice, system, idle, iowait, irq, softirq, steal⟩
  | _ => none

/-- `calculate_cpu_usage`. -/
def calculateCpuUsage (previous current : CpuTimes) : Double :=
  let previousIdle := previous.idle + previous.iowait
  let currentIdle := current.idle + current.iowait
  let previousTotal := previous.user + previous.nice + previous.system + previous.idle +
    previous.iowait + previous.irq + previous.softirq + previous.steal
  let currentTotal := current.user + current.nice + current.system + current.idle +
    current.iowait + current.irq + current.softirq + current.steal
  let totalDifference := currentTotal - previousTotal
  let idleDifference := currentIdle - previousIdle
  if totalDifference = 0 then .finite 0
  else .finite (((totalDifference - idleDifference).toNat : ℚ) / totalDifference.toNat * 100)

/-! ### Memory -/

/-- `MemoryInfo`. -/
structure MemoryInfo where
  /-- All of the memory, in kB. -/
  totalKb : UInt64
  /-- What is available of it. -/
  availableKb : UInt64
  /-- What is used of it. -/
  usedKb : UInt64
  /-- The used part, in percent. -/
  usagePercent : Double
  deriving DecidableEq, Repr

/-- What `get_memory_info` has found in the lines so far. -/
def readMemoryLine (line : Bytes) (found : Option UInt64 × Option UInt64) :
    Option UInt64 × Option UInt64 :=
  match (scanLiteral (ascii "MemTotal:") line).bind scanUnsigned with
  | some (v, _) => (some v, found.2)
  | none =>
    match (scanLiteral (ascii "MemAvailable:") line).bind scanUnsigned with
    | some (v, _) => (found.1, some v)
    | none => found

/-- The loop of `get_memory_info`: it ends when both numbers are found. -/
def readMemoryLines : List Bytes → Option UInt64 × Option UInt64 → Option UInt64 × Option UInt64
  | [], found => found
  | line :: lines, found =>
    match readMemoryLine (cstr line) found with
    | (some total, some available) => (some total, some available)
    | found => readMemoryLines lines found

/-- `get_memory_info`: the record, if it returns 0. -/
def getMemoryInfo (procMeminfo : Option Bytes) : Option MemoryInfo := do
  match readMemoryLines (fgetsPieces 256 (← procMeminfo)) (none, none) with
  | (some total, some available) =>
    if total < available then none
    else
      let used := total - available
      let percent := if 0 < total then (used.toNat : ℚ) / total.toNat * 100 else 0
      some ⟨total, available, used, .finite percent⟩
  | _ => none

/-! ### Disk -/

/-- The fields of `struct statvfs` that are used. -/
structure Statvfs where
  /-- `f_frsize`. -/
  frsize : UInt64
  /-- `f_blocks`. -/
  blocks : UInt64
  /-- `f_bfree`. -/
  bfree : UInt64
  /-- `f_bavail`. -/
  bavail : UInt64
  deriving DecidableEq, Repr

/-- `DiskInfo`. -/
structure DiskInfo where
  /-- The size of the file system. -/
  totalBytes : UInt64
  /-- What is used of it. -/
  usedBytes : UInt64
  /-- What users may still use. -/
  availableBytes : UInt64
  /-- The used part, in percent. -/
  usagePercent : Double
  deriving DecidableEq, Repr

/-- `get_disk_info`: the record, if `statvfs` succeeds. -/
def getDiskInfo (statvfs : Option Statvfs) : Option DiskInfo := do
  let filesystem ← statvfs
  let totalBytes := filesystem.blocks * filesystem.frsize
  let freeBytes := filesystem.bfree * filesystem.frsize
  let availableBytes := filesystem.bavail * filesystem.frsize
  let usedBytes := totalBytes - freeBytes
  let usageDenominator := usedBytes + availableBytes
  let percent := if usageDenominator = 0 then 0
    else (usedBytes.toNat : ℚ) / usageDenominator.toNat * 100
  some ⟨totalBytes, usedBytes, availableBytes, .finite percent⟩

/-! ### Status -/

/-- `SystemUptime`. -/
structure SystemUptime where
  /-- Whole days. -/
  days : UInt64
  /-- Hours of the last day. -/
  hours : UInt32
  /-- Minutes of the last hour. -/
  minutes : UInt32
  /-- Seconds of the last minute. -/
  seconds : UInt32
  deriving DecidableEq, Repr

/-- `get_system_uptime`: whole seconds. (What is converted to an integer is a number the
kernel wrote, so it is finite and not negative.) -/
def getSystemUptime (procUptime : Option Bytes) : Option UInt64 := do
  let (uptime, _) ← scanDouble (← procUptime)
  some (UInt64.ofNat ⌊uptime.value?.getD 0⌋.toNat)

/-- `convert_uptime`. -/
def convertUptime (totalSeconds : UInt64) : SystemUptime :=
  let n := totalSeconds.toNat
  ⟨UInt64.ofNat (n / 86400), UInt32.ofNat (n % 86400 / 3600),
    UInt32.ofNat (n % 86400 % 3600 / 60), UInt32.ofNat (n % 86400 % 3600 % 60)⟩

/-- `LoadAverage`. -/
structure LoadAverage where
  /-- Over one minute. -/
  oneMinute : Double
  /-- Over five minutes. -/
  fiveMinutes : Double
  /-- Over fifteen minutes. -/
  fifteenMinutes : Double
  deriving DecidableEq, Repr

/-- `get_load_average`: the averages, if it returns 0. -/
def getLoadAverage (procLoadavg : Option Bytes) : Option LoadAverage := do
  let (one, s) ← scanDouble (← procLoadavg)
  let (five, s) ← scanDouble s
  let (fifteen, _) ← scanDouble s
  some ⟨one, five, fifteen⟩

/-- `CurrentTime`. -/
structure CurrentTime where
  /-- The year. -/
  year : Int32
  /-- The month, from 1. -/
  month : Int32
  /-- The day, from 1. -/
  day : Int32
  /-- The hour. -/
  hour : Int32
  /-- The minute. -/
  minute : Int32
  /-- The second. -/
  second : Int32
  deriving DecidableEq, Repr

/-! ### Network -/

/-- `NetworkInfo`. -/
structure NetworkInfo where
  /-- The bytes received. -/
  rxBytes : UInt64
  /-- The bytes sent. -/
  txBytes : UInt64
  deriving DecidableEq, Repr

/-- `NetworkSpeed`. -/
structure NetworkSpeed where
  /-- Bytes received in a second. -/
  downloadBytesPerSec : Double
  /-- Bytes sent in a second. -/
  uploadBytesPerSec : Double
  deriving DecidableEq, Repr

/-- `NetworkSpeedDisplay`. -/
structure NetworkSpeedDisplay where
  /-- The number shown. -/
  value : Double
  /-- The unit shown. -/
  unit : Bytes
  deriving DecidableEq, Repr

/-- `network_interface_is_selected`. -/
def networkInterfaceIsSelected (config : AppConfig) (interfaceName : Bytes) : Prop :=
  if config.networkInterfaceCount = 0 then interfaceName ≠ ascii "lo"
  else ∃ i : Fin maxNetworkInterfaces, i < config.networkInterfaceCount.toNat ∧
    (config.networkInterfaces i).cstr = interfaceName

instance (config : AppConfig) (interfaceName : Bytes) :
    Decidable (networkInterfaceIsSelected config interfaceName) := by
  unfold networkInterfaceIsSelected
  exact inferInstance

/-- The `sscanf` of a line of `/proc/net/dev`: the name in front of the colon, at most 31
bytes, and the 16 numbers behind it. -/
def scanNetworkLine (line : Bytes) : Option (Bytes × List UInt64) :=
  let s := scanSpace line
  let name := (s.takeWhile (· ≠ 0x3a)).take 31
  if name = [] then none
  else do
    let s ← scanLiteral (ascii ":") (s.drop name.length)
    let (fields, _) ← scanUnsigneds 16 s
    some (name, fields)

/-- What a line of `/proc/net/dev` adds to the totals. -/
def addNetworkLine (config : AppConfig) (total : NetworkInfo) (line : Bytes) : NetworkInfo :=
  match scanNetworkLine (cstr line) with
  | some (name, fields) =>
    if networkInterfaceIsSelected config name then
      ⟨total.rxBytes + fields.getD 0 0, total.txBytes + fields.getD 8 0⟩
    else total
  | none => total

/-- `read_network_info_filtered`: the totals, if it returns 0. The first two lines are
headings. -/
def readNetworkInfoFiltered (config : AppConfig) (procNetDev : Option Bytes) :
    Option NetworkInfo :=
  if maxNetworkInterfaces < config.networkInterfaceCount.toNat then none
  else do
    match fgetsPieces 512 (← procNetDev) with
    | _ :: _ :: lines => some (lines.foldl (addNetworkLine config) ⟨0, 0⟩)
    | _ => none

/-- `calculate_network_speed`: the speeds, if it returns 0. -/
def calculateNetworkSpeed (previous current : NetworkInfo) (elapsedSeconds : ℚ) :
    Option NetworkSpeed :=
  if elapsedSeconds ≤ 0 then none
  else
    let receivedDifference :=
      if previous.rxBytes ≤ current.rxBytes then current.rxBytes - previous.rxBytes else 0
    let transmittedDifference :=
      if previous.txBytes ≤ current.txBytes then current.txBytes - previous.txBytes else 0
    some ⟨.finite (receivedDifference.toNat / elapsedSeconds),
      .finite (transmittedDifference.toNat / elapsedSeconds)⟩

/-- `convert_network_speed`: what is shown, if it returns 0. -/
def convertNetworkSpeed (bytesPerSecond : Double) : Option NetworkSpeedDisplay :=
  let kilobyte : ℚ := 1024
  let megabyte : ℚ := 1024 * 1024
  let gigabyte : ℚ := 1024 * 1024 * 1024
  let shown (unit : ℚ) (name : Bytes) : NetworkSpeedDisplay :=
    ⟨.finite (bytesPerSecond.value?.getD 0 / unit), name⟩
  if bytesPerSecond.lt (.finite 0) then none
  else if (Double.finite gigabyte).le bytesPerSecond then some (shown gigabyte (ascii "GB/s"))
  else if (Double.finite megabyte).le bytesPerSecond then some (shown megabyte (ascii "MB/s"))
  else if (Double.finite kilobyte).le bytesPerSecond then some (shown kilobyte (ascii "KB/s"))
  else some ⟨bytesPerSecond, ascii "B/s"⟩

end EdgeSentinel.Monitor
