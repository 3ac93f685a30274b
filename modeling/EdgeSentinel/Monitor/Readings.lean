import EdgeSentinel.Monitor.NetworkSpeed

/-!
# What a run prints of the system

The loop carries the samples of the CPU and of the network from one round to the next, in
variables of `main` that the start, the rounds and the attempts to reload write, and its levels
and its counter beside them.

## The model

The abstract view has no state: `readings` is what is shown of the system, from the answers at two
`SamplingPoint`s, the one before and the one of the round. The one before is the round of the turn
right before, or the start (`PointBefore`).

## What is proved

* `monitorSystem_readings` — the system part of a round prints the readings, once.
* `heldPoint_of_taken` — **the invariant**: at the `sleep` in front of a turn, the variables hold
  what the sampling point before has read.
* `printed_readings` — **every completed turn** of a run prints, once and behind everything else
  that it does for the system, the readings of two consecutive sampling points, under the
  configuration in effect; only right behind a reload that was applied no speeds are shown.
-/

namespace EdgeSentinel.Monitor

open CLib Config Trace Trace.Traced

/-- What is answered at a sampling point to the calls with which the next one compares. -/
structure SamplingPoint where
  /-- `/proc/stat`. -/
  procStat : Option Bytes
  /-- `/proc/net/dev`. -/
  procNetDev : Option Bytes
  /-- `clock_gettime(CLOCK_MONOTONIC)`. -/
  clock : Option Timespec

/-- The start is a sampling point. -/
def StartCalls.point (calls : StartCalls) : SamplingPoint :=
  ⟨calls.procStat, calls.procNetDev, calls.clock⟩

/-- So is every round. -/
def RoundCalls.point (calls : RoundCalls) : SamplingPoint :=
  ⟨calls.procStat, calls.procNetDev, calls.clock⟩

/-- What is printed in a round. -/
structure Readings where
  /-- The results. -/
  snapshot : MonitorSnapshot
  /-- The download speed, as shown. -/
  download : NetworkSpeedDisplay
  /-- The upload speed, as shown. -/
  upload : NetworkSpeedDisplay
  deriving DecidableEq, Repr

/-- The speeds between two sampling points; there are none at a new baseline. -/
def speedBetween (config : AppConfig) (before now : SamplingPoint) (baseline : Bool) :
    Option NetworkSpeed := do
  let current ← readNetworkInfoFiltered config now.procNetDev
  let time ← now.clock
  if baseline then some ⟨.finite 0, .finite 0⟩
  else
    let previous ← readNetworkInfoFiltered config before.procNetDev
    let previousTime ← before.clock
    calculateNetworkSpeed previous current (calculateElapsedSeconds previousTime time)

/-- What a round shows, from its answers and those of the sampling point before; `processes` are
the processes that it shows. -/
def readings (config : AppConfig) (before : SamplingPoint) (baseline : Bool)
    (calls : RoundCalls) (processes : List MonitoredProcess) : Option Readings := do
  let cpuUsage := calculateCpuUsage (← readCpuTimes before.procStat) (← readCpuTimes calls.procStat)
  let cpuLevel := alertEvaluatePercentage cpuUsage config.cpuWarningThreshold
    config.cpuCriticalThreshold
  let total ← readNetworkInfoFiltered config calls.procNetDev
  let speed ← speedBetween config before calls.point baseline
  let download ← convertNetworkSpeed speed.downloadBytesPerSec
  let upload ← convertNetworkSpeed speed.uploadBytesPerSec
  let memory ← getMemoryInfo calls.procMeminfo
  let memoryLevel := alertEvaluatePercentage memory.usagePercent config.memoryWarningThreshold
    config.memoryCriticalThreshold
  let disk ← getDiskInfo calls.statvfs
  let diskLevel := alertEvaluatePercentage disk.usagePercent config.diskWarningThreshold
    config.diskCriticalThreshold
  let uptimeSeconds ← getSystemUptime calls.procUptime
  let loadAverage ← getLoadAverage calls.procLoadavg
  let currentTime ← calls.currentTime
  some ⟨{
    currentTime := currentTime
    uptime := convertUptime uptimeSeconds
    loadAverage := loadAverage
    cpuUsagePercent := cpuUsage
    cpuLevel := cpuLevel
    totalMemoryKb := memory.totalKb
    availableMemoryKb := memory.availableKb
    usedMemoryKb := memory.usedKb
    memoryUsagePercent := memory.usagePercent
    memoryLevel := memoryLevel
    totalDiskBytes := disk.totalBytes
    usedDiskBytes := disk.usedBytes
    availableDiskBytes := disk.availableBytes
    diskUsagePercent := disk.usagePercent
    diskLevel := diskLevel
    systemLevel := alertGetHigherLevel (alertGetHigherLevel cpuLevel memoryLevel) diskLevel
    networkReceiveTotalBytes := total.rxBytes
    networkTransmitTotalBytes := total.txBytes
    downloadBytesPerSecond := speed.downloadBytesPerSec
    uploadBytesPerSecond := speed.uploadBytesPerSec
    processes := processes }, download, upload⟩

/-- What an action prints. -/
def Action.printed? : Action → Option Readings
  | .printed _ snapshot download upload => some ⟨snapshot, download, upload⟩
  | _ => none

/-- What a view of actions shows of those for the system. -/
def ofSystem {δ : Type} (view : Action → Option δ) (e : Event) : Option δ :=
  if e.source = .system then view e.action else none

/-! ### The blocks of the system part -/

/-- A completed system part of a round, block by block: what each of them returns. -/
structure SystemBlocks (format : OutputFormat) (calls : RoundCalls) (s : MainState)
    (r : CpuTimes × MainState) where
  /-- The CPU usage. -/
  cpu : CpuTimes × Double × AlertLevel × MainState
  /-- The network. -/
  network : NetworkSample × MainState
  /-- The memory. -/
  memory : MemoryInfo × AlertLevel × MainState
  /-- The disk. -/
  disk : DiskInfo × AlertLevel × MainState
  /-- The state behind the record of the system level. -/
  watched : MainState
  /-- The uptime. -/
  uptimeSeconds : UInt64
  /-- The load. -/
  loadAverage : LoadAverage
  /-- The time. -/
  currentTime : CurrentTime
  cpu_ok : (gradeSystemCpu calls s).result = .ok cpu
  network_ok : (sampleNetwork calls cpu.2.2.2).result = .ok network
  memory_ok : (gradeSystemMemory calls network.2).result = .ok memory
  disk_ok : (gradeDisk calls memory.2.2).result = .ok disk
  watched_ok : (watchSystemLevel calls
    (alertGetHigherLevel (alertGetHigherLevel cpu.2.2.1 memory.2.1) disk.2.1)
    (percentagesMessage cpu.2.1 memory.1.usagePercent disk.1.usagePercent) disk.2.2).result =
      .ok watched
  logged_ok : (writePeriodicLog calls
    (alertGetHigherLevel (alertGetHigherLevel cpu.2.2.1 memory.2.1) disk.2.1)
    (percentagesMessage cpu.2.1 memory.1.usagePercent disk.1.usagePercent) watched).result =
      .ok r.2
  uptime_ok : getSystemUptime calls.procUptime = some uptimeSeconds
  load_ok : getLoadAverage calls.procLoadavg = some loadAverage
  time_ok : calls.currentTime = some currentTime
  cpu_eq : cpu.1 = r.1

variable {format : OutputFormat} {calls : RoundCalls} {s s' s₀ : MainState}
  {its : List Iteration} {c : MainState × Iteration} {before : SamplingPoint}
  {r : CpuTimes × MainState} {δ : Type} {view : Action → Option δ}

namespace SystemBlocks

/-- The level of the system. -/
def level (b : SystemBlocks format calls s r) : AlertLevel :=
  alertGetHigherLevel (alertGetHigherLevel b.cpu.2.2.1 b.memory.2.1) b.disk.2.1

/-- The percentages of a log record. -/
def percentages (b : SystemBlocks format calls s r) : Bytes :=
  percentagesMessage b.cpu.2.1 b.memory.1.usagePercent b.disk.1.usagePercent

/-- What is printed. -/
def reading (b : SystemBlocks format calls s r) : Readings :=
  ⟨{  currentTime := b.currentTime
      uptime := convertUptime b.uptimeSeconds
      loadAverage := b.loadAverage
      cpuUsagePercent := b.cpu.2.1
      cpuLevel := b.cpu.2.2.1
      totalMemoryKb := b.memory.1.totalKb
      availableMemoryKb := b.memory.1.availableKb
      usedMemoryKb := b.memory.1.usedKb
      memoryUsagePercent := b.memory.1.usagePercent
      memoryLevel := b.memory.2.1
      totalDiskBytes := b.disk.1.totalBytes
      usedDiskBytes := b.disk.1.usedBytes
      availableDiskBytes := b.disk.1.availableBytes
      diskUsagePercent := b.disk.1.usagePercent
      diskLevel := b.disk.2.1
      systemLevel := b.level
      networkReceiveTotalBytes := r.2.currentNetwork.rxBytes
      networkTransmitTotalBytes := r.2.currentNetwork.txBytes
      downloadBytesPerSecond := b.network.1.speed.downloadBytesPerSec
      uploadBytesPerSecond := b.network.1.speed.uploadBytesPerSec
      processes := (processIndices r.2.processCount).map r.2.processes },
    b.network.1.download, b.network.1.upload⟩

/-- The actions of the blocks, in order. -/
def actions (b : SystemBlocks format calls s r) : List Action :=
  (gradeSystemCpu calls s).events ++ ((sampleNetwork calls b.cpu.2.2.2).events ++
    ((gradeSystemMemory calls b.network.2).events ++ ((gradeDisk calls b.memory.2.2).events ++
      ((watchSystemLevel calls b.level b.percentages b.disk.2.2).events ++
        ((writePeriodicLog calls b.level b.percentages b.watched).events ++
          [.printed format b.reading.snapshot b.reading.download b.reading.upload])))))

end SystemBlocks

/-- **The system part of a round** that is completed consists of its blocks. -/
theorem monitorSystem_blocks (h : (monitorSystem format calls s).result = .ok r) :
    ∃ b : SystemBlocks format calls s r, (monitorSystem format calls s).events = b.actions := by
  obtain ⟨cpu, h₁, h⟩ := result_bind_ok.mp h
  obtain ⟨network, h₂, h⟩ := result_bind_ok.mp h
  obtain ⟨memory, h₃, h⟩ := result_bind_ok.mp h
  obtain ⟨disk, h₄, h⟩ := result_bind_ok.mp h
  obtain ⟨watched, h₅, h⟩ := result_bind_ok.mp h
  obtain ⟨logged, h₆, h⟩ := result_bind_ok.mp h
  obtain ⟨uptime, huptime, h⟩ := result_bind_ok.mp h
  obtain ⟨load, hload, h⟩ := result_bind_ok.mp h
  obtain ⟨time, htime, h⟩ := result_bind_ok.mp h
  obtain rfl := Except.ok.inj h
  rw [result_orStop_ok] at huptime hload htime
  refine ⟨⟨cpu, network, memory, disk, watched, uptime, load, time, h₁, h₂, h₃, h₄, h₅, h₆, huptime,
    hload, htime, rfl⟩, ?_⟩
  rw [monitorSystem, events_bind h₁, events_bind h₂, events_bind h₃, events_bind h₄,
    events_bind h₅, events_bind h₆, huptime, hload, htime]
  rfl

/-! ### One round -/

/-- The variables of `main` hold what a sampling point has read, with this configuration. -/
structure HoldsPoint (s : MainState) (config : AppConfig) (point : SamplingPoint) : Prop where
  /-- The CPU times. -/
  cpu : readCpuTimes point.procStat = some s.previousCpu
  /-- The totals of the network, and the clock right behind. -/
  network : s.networkBaselineReset = false →
    ReadsNetwork config point.procNetDev point.clock s.previousNetwork s.previousNetworkTime

theorem HoldsPoint.onlyLevels {config : AppConfig} (h : HoldsPoint s config before)
    (hs : OnlyLevels s s') : HoldsPoint s' config before := by
  obtain ⟨_, _, _, _, _, rfl⟩ := hs
  exact ⟨h.cpu, h.network⟩

/-- Grading a percentage gives its level. -/
theorem gradePercentage_level (config : AppConfig) (now : ℤ) (metric : AlertMetric)
    (target : Bytes) (percent warning critical : Double) (baseline : LevelBaseline) :
    (gradePercentage config now metric target percent warning critical baseline).Yields
      (fun r => r.1 = alertEvaluatePercentage percent warning critical) fun _ => True :=
  .emit_bind (.seq (watchLevel_yields (fun _ => sendAlertChangeNotification_yields _ _ _) _ _)
    fun _ => .pure rfl)

theorem gradeSystemCpu_readings {r : CpuTimes × Double × AlertLevel × MainState}
    (h : (gradeSystemCpu calls s).result = .ok r) :
    readCpuTimes calls.procStat = some r.1 ∧ r.2.1 = calculateCpuUsage s.previousCpu r.1 ∧
      r.2.2.1 = alertEvaluatePercentage r.2.1 s.config.cpuWarningThreshold
        s.config.cpuCriticalThreshold := by
  obtain ⟨currentCpu, hcurrent, h⟩ := result_bind_ok.mp h
  rw [result_orStop_ok] at hcurrent
  obtain ⟨⟨⟩, -, h⟩ := result_bind_ok.mp h
  obtain ⟨⟨level, baseline⟩, hlevel, h⟩ := result_bind_ok.mp h
  obtain rfl := Except.ok.inj h
  exact ⟨hcurrent, rfl, (gradePercentage_level _ _ _ _ _ _ _ _).ok _ hlevel⟩

theorem gradeSystemMemory_readings {r : MemoryInfo × AlertLevel × MainState}
    (h : (gradeSystemMemory calls s).result = .ok r) :
    getMemoryInfo calls.procMeminfo = some r.1 ∧
      r.2.1 = alertEvaluatePercentage r.1.usagePercent s.config.memoryWarningThreshold
        s.config.memoryCriticalThreshold := by
  obtain ⟨memory, hmemory, h⟩ := result_bind_ok.mp h
  rw [result_orStop_ok] at hmemory
  obtain ⟨⟨level, baseline⟩, hlevel, h⟩ := result_bind_ok.mp h
  obtain rfl := Except.ok.inj h
  exact ⟨hmemory, (gradePercentage_level _ _ _ _ _ _ _ _).ok _ hlevel⟩

theorem gradeDisk_readings {r : DiskInfo × AlertLevel × MainState}
    (h : (gradeDisk calls s).result = .ok r) :
    getDiskInfo calls.statvfs = some r.1 ∧
      r.2.1 = alertEvaluatePercentage r.1.usagePercent s.config.diskWarningThreshold
        s.config.diskCriticalThreshold := by
  obtain ⟨disk, hdisk, h⟩ := result_bind_ok.mp h
  rw [result_orStop_ok] at hdisk
  obtain ⟨⟨level, baseline⟩, hlevel, h⟩ := result_bind_ok.mp h
  obtain rfl := Except.ok.inj h
  exact ⟨hdisk, (gradePercentage_level _ _ _ _ _ _ _ _).ok _ hlevel⟩

theorem sampleNetwork_readings (hs : HoldsPoint s s.config before) {r : NetworkSample × MainState}
    (h : (sampleNetwork calls s).result = .ok r) :
    readNetworkInfoFiltered s.config calls.procNetDev = some r.2.currentNetwork ∧
      speedBetween s.config before calls.point s.networkBaselineReset = some r.1.speed ∧
      convertNetworkSpeed r.1.speed.downloadBytesPerSec = some r.1.download ∧
      convertNetworkSpeed r.1.speed.uploadBytesPerSec = some r.1.upload := by
  obtain ⟨network, hnetwork, h⟩ := result_bind_ok.mp h
  obtain ⟨time, htime, h⟩ := result_bind_ok.mp h
  rw [result_orStop_ok] at hnetwork htime
  rw [result_emit_bind] at h
  obtain ⟨⟨speed, s₁⟩, hspeed, h⟩ := result_bind_ok.mp h
  obtain ⟨download, hdownload, h⟩ := result_bind_ok.mp h
  obtain ⟨upload, hupload, h⟩ := result_bind_ok.mp h
  rw [result_orStop_ok] at hdownload hupload
  obtain rfl := Except.ok.inj h
  have hcurrent := (measureNetworkSpeed_ok hspeed).1
  refine ⟨hcurrent ▸ hnetwork, ?_, hdownload, hupload⟩
  unfold speedBetween RoundCalls.point
  dsimp only
  rw [hnetwork, htime]
  unfold measureNetworkSpeed at hspeed
  dsimp only at hspeed
  cases hreset : s.networkBaselineReset with
  | true =>
    rw [if_pos hreset] at hspeed
    obtain ⟨rfl, -⟩ := Prod.mk.inj (Except.ok.inj hspeed)
    rfl
  | false =>
    obtain ⟨hprevious, hpreviousTime⟩ := hs.network hreset
    rw [if_neg (by rw [hreset]; decide), result_emit_bind] at hspeed
    obtain ⟨speed', hspeed', hspeed⟩ := result_bind_ok.mp hspeed
    obtain ⟨rfl, -⟩ := Prod.mk.inj (Except.ok.inj hspeed)
    rw [hprevious, hpreviousTime]
    exact result_orStop_ok.mp hspeed'

/-- What the readers have found out about the blocks. -/
theorem SystemBlocks.reading_eq (b : SystemBlocks format calls s r)
    (hs : HoldsPoint s s.config before) :
    readings s.config before s.networkBaselineReset calls
      ((processIndices s.processCount).map s.processes) = some b.reading := by
  have hlevels : OnlyLevels s b.cpu.2.2.2 := (gradeSystemCpu_yields calls s).ok _ b.cpu_ok
  have hsample : SameProcesses b.cpu.2.2.2 b.network.2 :=
    (sampleNetwork_yields calls _).ok _ b.network_ok
  have hmemory : OnlyLevels b.network.2 b.memory.2.2 :=
    (gradeSystemMemory_yields calls _).ok _ b.memory_ok
  have hrest : OnlyLevels b.network.2 r.2 := hmemory.trans
    (((gradeDisk_yields calls _).ok _ b.disk_ok).trans
      (((watchSystemLevel_yields calls _ _ _).ok _ b.watched_ok).trans
        ((writePeriodicLog_yields calls _ _ _).ok _ b.logged_ok)))
  have hs₁ : HoldsPoint b.cpu.2.2.2 b.cpu.2.2.2.config before :=
    hlevels.sameProcesses.config.symm ▸ hs.onlyLevels hlevels
  have hnetworkConfig : b.network.2.config = s.config :=
    hsample.config.trans hlevels.sameProcesses.config
  have hdiskConfig : b.memory.2.2.config = s.config :=
    hmemory.sameProcesses.config.trans hnetworkConfig
  have hreset : b.cpu.2.2.2.networkBaselineReset = s.networkBaselineReset := by
    obtain ⟨_, _, _, _, _, heq⟩ := hlevels
    rw [heq]
  have hcurrent : r.2.currentNetwork = b.network.2.currentNetwork := by
    obtain ⟨_, _, _, _, _, heq⟩ := hrest
    rw [heq]
  have hprocesses : (processIndices r.2.processCount).map r.2.processes =
      (processIndices s.processCount).map s.processes := by
    have hsame := (hlevels.sameProcesses.trans hsample).trans hrest.sameProcesses
    rw [hsame.processCount, hsame.processes]
  obtain ⟨hcpu, husage, hcpuLevel⟩ := gradeSystemCpu_readings b.cpu_ok
  obtain ⟨htotal, hspeed, hdownload, hupload⟩ := sampleNetwork_readings hs₁ b.network_ok
  obtain ⟨hmemoryInfo, hmemoryLevel⟩ := gradeSystemMemory_readings b.memory_ok
  obtain ⟨hdiskInfo, hdiskLevel⟩ := gradeDisk_readings b.disk_ok
  rw [hlevels.sameProcesses.config] at htotal hspeed
  rw [hreset] at hspeed
  rw [hnetworkConfig] at hmemoryLevel
  rw [hdiskConfig] at hdiskLevel
  unfold readings SystemBlocks.reading SystemBlocks.level
  rw [hcurrent, hprocesses, hcpuLevel, hmemoryLevel, hdiskLevel, husage]
  simp only [hs.cpu, hcpu, htotal, hspeed, hdownload, hupload, hmemoryInfo, hdiskInfo, b.uptime_ok,
    b.load_ok, b.time_ok, Option.bind_eq_bind, Option.bind_some]

/-- What the blocks show through a view that hides the grading of percentages and the sample of
the network: the records of the log, and the output. -/
theorem SystemBlocks.shown_actions (b : SystemBlocks format calls s r)
    (hevaluated : ∀ metric value level, view (.evaluated metric value level) = none)
    (hchanged : ∀ change, view (.alertChanged change) = none)
    (hsent : ∀ event command, view (.notifierSend event command) = none)
    (hsampled : ∀ interfaces info time, view (.networkSampled interfaces info time) = none)
    (hspeed : ∀ previous current elapsed, view (.speedCalculated previous current elapsed) = none) :
    b.actions.filterMap view =
      (watchSystemLevel calls b.level b.percentages b.disk.2.2).shown view ++
        ((writePeriodicLog calls b.level b.percentages b.watched).shown view ++
          [Action.printed format b.reading.snapshot b.reading.download
            b.reading.upload].filterMap view) := by
  have hgrade : ∀ {config : AppConfig} {now : ℤ} {own : AlertMetric} {target : Bytes}
      {percent warning critical : Double} {baseline : LevelBaseline},
      (gradePercentage config now own target percent warning critical baseline).Emits
        fun a => view a = none :=
    gradePercentage_emits (fun _ => hevaluated _ _ _) (fun _ _ => hchanged _) hsent
  have hcpu : (gradeSystemCpu calls s).shown view = [] :=
    shown_of_hidden (.orStop_bind fun _ => .check_bind (.bind hgrade fun _ _ => .pure))
  have hnetwork : (sampleNetwork calls b.cpu.2.2.2).shown view = [] :=
    shown_of_hidden (sampleNetwork_emits hsampled hspeed _ _)
  have hmemory : (gradeSystemMemory calls b.network.2).shown view = [] :=
    shown_of_hidden (.orStop_bind fun _ => .bind hgrade fun _ _ => .pure)
  have hdisk : (gradeDisk calls b.memory.2.2).shown view = [] :=
    shown_of_hidden (.orStop_bind fun _ => .bind hgrade fun _ _ => .pure)
  unfold shown at hcpu hnetwork hmemory hdisk
  unfold actions
  simp only [List.filterMap_append, hcpu, hnetwork, hmemory, hdisk, List.nil_append]
  rfl

/-- **The system part of a round** prints the readings, once. -/
theorem SystemBlocks.printed_actions (b : SystemBlocks format calls s r) :
    b.actions.filterMap Action.printed? = [b.reading] := by
  rw [b.shown_actions (fun _ _ _ => rfl) (fun _ => rfl) (fun _ _ => rfl) (fun _ _ _ => rfl)
    fun _ _ _ => rfl, shown_of_hidden (watchSystemLevel_emits (fun _ _ _ => rfl) _ _ _ _),
    shown_of_hidden (writePeriodicLog_emits (fun _ _ _ => rfl) _ _ _ _)]
  rfl

/-- One that stops prints nothing. -/
theorem monitorSystem_showsAtEnd (format : OutputFormat) (calls : RoundCalls) (s : MainState) :
    (monitorSystem format calls s).ShowsAtEnd Action.printed? := by
  have hgrade : ∀ {config : AppConfig} {now : ℤ} {own : AlertMetric} {target : Bytes}
      {percent warning critical : Double} {baseline : LevelBaseline},
      (gradePercentage config now own target percent warning critical baseline).Emits
        fun a => a.printed? = none :=
    gradePercentage_emits (fun _ => rfl) (fun _ _ => rfl) fun _ _ => rfl
  refine .bind (.orStop_bind fun _ => .check_bind (.bind hgrade fun _ _ => .pure)) fun _ => ?_
  refine .bind (sampleNetwork_emits (fun _ _ _ => rfl) (fun _ _ _ => rfl) _ _) fun _ => ?_
  refine .bind (.orStop_bind fun _ => .bind hgrade fun _ _ => .pure) fun _ => ?_
  refine .bind (.orStop_bind fun _ => .bind hgrade fun _ _ => .pure) fun _ => ?_
  refine .bind (watchSystemLevel_emits (fun _ _ _ => rfl) _ _ _ _) fun _ => ?_
  refine .bind (writePeriodicLog_emits (fun _ _ _ => rfl) _ _ _ _) fun _ => ?_
  refine .orStop_bind fun _ => .orStop_bind fun _ => .orStop_bind fun _ => fun r hr => ?_
  cases hr

/-! ### Runs -/

/-- The sampling point right before a turn of a run. -/
inductive PointBefore (format : OutputFormat) (calls : StartCalls) (s₀ : MainState)
    (its : List Iteration) (c : MainState × Iteration) : SamplingPoint → Prop where
  /-- The turn is the first one. -/
  | start (hfirst : [c] <+: taken (iteration format) s₀ its) :
    PointBefore format calls s₀ its c calls.point
  /-- There is a turn right before it. -/
  | round (b : MainState × Iteration) (hadjacent : [b, c] <:+: taken (iteration format) s₀ its) :
    PointBefore format calls s₀ its c b.2.round.point

/-- The start reads the CPU times that the first round compares with. -/
theorem start_cpu {calls : StartCalls} (h : (start calls).result = .ok s) :
    readCpuTimes calls.procStat = some s.previousCpu := by
  obtain ⟨s₁, -, h⟩ := result_bind_ok.mp h
  obtain ⟨⟨⟩, -, h⟩ := result_bind_ok.mp h
  obtain ⟨previousCpu, hcpu, h⟩ := result_bind_ok.mp h
  obtain ⟨previousNetwork, -, h⟩ := result_bind_ok.mp h
  obtain ⟨previousNetworkTime, -, h⟩ := result_bind_ok.mp h
  obtain ⟨⟨⟩, -, h⟩ := result_bind_ok.mp h
  rw [result_emit_bind] at h
  obtain ⟨⟨⟩, -, h⟩ := result_bind_ok.mp h
  rw [result_emit_bind] at h
  obtain rfl := Except.ok.inj h
  exact result_orStop_ok.mp hcpu

/-- A round reads those that the next one compares with. -/
theorem round_cpu (h : (round format calls s).result = .ok s') :
    readCpuTimes calls.procStat = some s'.previousCpu := by
  obtain ⟨s₁, -, h⟩ := result_bind_ok.mp h
  obtain ⟨r, hr, h⟩ := result_bind_ok.mp h
  rw [result_rename_ok] at hr
  obtain rfl := Except.ok.inj h
  obtain ⟨b, -⟩ := monitorSystem_blocks hr
  have hcpu := (gradeSystemCpu_readings b.cpu_ok).1
  rw [b.cpu_eq] at hcpu
  exact hcpu

/-- Two states that differ at most in what an attempt to reload writes before it is decided. -/
def OnlyAttempt (s s' : MainState) : Prop :=
  ∃ config limit network time, s' = { s with
    reloadedConfig := config
    currentLogMaxSize := limit
    currentNetwork := network
    currentNetworkTime := time }

theorem attemptReload_only (calls : ReloadCalls) (s : MainState) :
    OnlyAttempt s (attemptReload calls s).2 := by
  obtain ⟨-, _, hcases⟩ | ⟨-, _, _, _, hcases, -⟩ := attemptReload_cases calls s
  · rw [hcases]
    exact ⟨_, _, _, _, rfl⟩
  · rw [hcases]
    exact ⟨_, _, _, _, rfl⟩

/-- **In front of a round**, a new configuration is applied behind an attempt to reload, or there
was at most the attempt. -/
theorem reloadIfRequested_only {it : Iteration}
    (h : (reloadIfRequested it.reload s).result = .ok s') :
    (¬ AppliesReload s it ∧ OnlyAttempt s s') ∨
      (AppliesReload s it ∧ ∃ calls s₁, OnlyAttempt s s₁ ∧ s' = appliedReload calls s₁) := by
  cases hreload : it.reload with
  | none =>
    rw [hreload] at h
    obtain rfl := Except.ok.inj h
    refine .inl ⟨?_, _, _, _, _, rfl⟩
    rintro ⟨calls, hcalls, -⟩
    rw [hreload] at hcalls
    cases hcalls
  | some calls =>
    rw [hreload] at h
    have happlies : AppliesReload s it ↔ (attemptReload calls s).1 = none := by
      simp [AppliesReload, hreload]
    have honly := attemptReload_only calls s
    rw [happlies]
    obtain ⟨step, hstep, -⟩ | ⟨-, s₁, hstep, -, rfl⟩ := reload_ok h
    · rw [hstep] at honly ⊢
      exact .inl ⟨by simp, honly⟩
    · rw [hstep] at honly ⊢
      exact .inr ⟨rfl, calls, s₁, honly, rfl⟩

/-- The CPU times stay, whatever an attempt to reload comes to. -/
theorem reloadIfRequested_cpu {it : Iteration}
    (h : (reloadIfRequested it.reload s).result = .ok s') : s'.previousCpu = s.previousCpu := by
  obtain ⟨-, _, _, _, _, rfl⟩ | ⟨-, _, _, ⟨_, _, _, _, rfl⟩, rfl⟩ := reloadIfRequested_only h
  · rfl
  · rfl

/-- **The invariant**: at the `sleep` in front of a turn, the variables hold what the sampling
point before has read, and the next sample of the network is not only a baseline. -/
theorem heldPoint_of_taken {calls : StartCalls} (hs₀ : (start calls).result = .ok s₀)
    (hc : c ∈ taken (iteration format) s₀ its) :
    ∃ before, PointBefore format calls s₀ its c before ∧ HoldsPoint c.1 c.1.config before ∧
      c.1.networkBaselineReset = false := by
  obtain ⟨hfirst, hstate⟩ | ⟨b, hadjacent⟩ := adjacent_of_mem_taken hc
  · obtain ⟨_, _, _, hnetwork, htime, heq⟩ := start_samples hs₀
    refine ⟨calls.point, .start hfirst, ?_, ?_⟩
    · rw [hstate]
      refine ⟨start_cpu hs₀, fun _ => ?_⟩
      rw [heq]
      exact ⟨hnetwork, htime⟩
    · rw [hstate, heq]
      rfl
  · have hb : b ∈ taken (iteration format) s₀ its := hadjacent.subset List.mem_cons_self
    obtain ⟨t, ht, hround⟩ := round_of_adjacent hadjacent
    have hop : Operating t :=
      reloadIfRequested_operating (taken_operating (start_operating hs₀) hb) ht
    obtain ⟨hreads, hreset⟩ := round_samples hround
    rw [← (round_ok hop.one_le hop.count_le hround).config] at hreads
    exact ⟨b.2.round.point, .round b hadjacent, ⟨round_cpu hround, fun _ => hreads⟩, hreset⟩

/-- So they do behind the reload in front of the round; only if a new configuration is applied
the next sample of the network is a baseline. -/
theorem heldPoint_of_reload (hc : HoldsPoint s s.config before)
    (hreset : s.networkBaselineReset = false) {it : Iteration}
    (h : (reloadIfRequested it.reload s).result = .ok s') :
    HoldsPoint s' s'.config before ∧ (s'.networkBaselineReset = true ↔ AppliesReload s it) := by
  have hcpu := reloadIfRequested_cpu h
  obtain ⟨hnot, hsame⟩ | ⟨happlies, calls', s₂, rfl⟩ := reloadIfRequested_cases h
  · refine ⟨⟨by rw [hcpu]; exact hc.cpu, fun _ => ?_⟩, ?_⟩
    · rw [hsame.config, hsame.previousNetwork, hsame.previousNetworkTime]
      exact hc.network hreset
    · rw [hsame.networkBaselineReset, hreset]
      exact iff_of_false (by decide) hnot
  · exact ⟨⟨by rw [hcpu]; exact hc.cpu, fun h => by cases h⟩, iff_of_true rfl happlies⟩

/-- In front of the system part of its round, a turn of the loop shows nothing of the system but
its reload. -/
theorem reloadIfRequested_hidden (h : ∀ a : Action, a.OfReload → view a = none)
    (calls : Option ReloadCalls) (s : MainState) :
    (reloadIfRequested calls s).Emits fun e => ofSystem view e = none :=
  (reloadIfRequested_emits calls s).mono fun e he => by
    rw [ofSystem, if_pos he.1, h e.action he.2]

theorem monitorProcesses_hidden (calls : RoundCalls) (s : MainState) :
    (monitorProcesses calls s).Emits fun e => ofSystem view e = none := by
  refine .run (fun s i => (monitorProcess_emits calls s i).mono fun e he => ?_) _ _
  exact if_neg (by rw [he]; nofun)

/-- A reload prints nothing. -/
theorem printed?_of_ofReload (a : Action) (h : a.OfReload) : a.printed? = none := by
  cases a <;> first | rfl | exact h.elim

/-- A turn of the loop that stops prints nothing. -/
theorem iteration_showsAtEnd (format : OutputFormat) (s : MainState) (it : Iteration) :
    (iteration format s it).ShowsAtEnd (ofSystem Action.printed?) := by
  refine .bind (reloadIfRequested_hidden printed?_of_ofReload _ _) fun s₁ => ?_
  refine .bind (monitorProcesses_hidden _ _) fun s₂ => ?_
  have hsystem : (monitorSystem format it.round s₂).ShowsAtEnd
      fun a => ofSystem Action.printed? (Event.mk .system a) := by
    simp only [ofSystem, if_true]
    exact monitorSystem_showsAtEnd format it.round s₂
  exact .bind_returns (.rename hsystem) fun r => ⟨_, rfl⟩

/-- **What a completed turn shows of the system**, its reload apart, is what the system part of
its round shows. -/
theorem shown_iteration_system (hreload : ∀ a : Action, a.OfReload → view a = none)
    {it : Iteration} (h : (iteration format s it).result = .ok s') :
    ∃ s₁ s₂ r, (reloadIfRequested it.reload s).result = .ok s₁ ∧
      (monitorProcesses it.round s₁).result = .ok s₂ ∧
      (monitorSystem format it.round s₂).result = .ok r ∧
      (∃ i processes, s' = { r.2 with
        activeProcess := i
        processes := processes
        previousCpu := r.1
        previousNetwork := r.2.currentNetwork
        previousNetworkTime := r.2.currentNetworkTime }) ∧
      (iteration format s it).shown (ofSystem view) =
        (monitorSystem format it.round s₂).shown view := by
  obtain ⟨s₁, hs₁, h⟩ := result_bind_ok.mp h
  obtain ⟨s₂, hs₂, h⟩ := result_bind_ok.mp h
  obtain ⟨r, hr, h⟩ := result_bind_ok.mp h
  rw [result_rename_ok] at hr
  refine ⟨s₁, s₂, r, hs₁, hs₂, hr, ?_, ?_⟩
  · obtain rfl := Except.ok.inj h
    obtain ⟨i, hi⟩ := afterOutput_eq format r.2
    obtain ⟨processes, hprocesses⟩ := forgetUnavailable_eq { r.2 with activeProcess := i }
    refine ⟨i, processes, ?_⟩
    rw [hi, hprocesses]
  · rw [iteration, shown_bind_of_ok hs₁, shown_of_hidden (reloadIfRequested_hidden hreload _ _),
      List.nil_append, round, shown_bind_of_ok hs₂,
      shown_of_hidden (monitorProcesses_hidden _ _), List.nil_append,
      shown_bind_of_hidden fun _ => .pure, shown, events_rename, List.filterMap_map]
    refine List.filterMap_congr fun a _ => ?_
    simp [ofSystem]

/-- **A completed turn**: its reload, its loop over the processes, and the blocks of its system
part, which are all that it shows of the system besides the reload. -/
theorem blocks_of_completed (h : (iteration format c.1 c.2).result = .ok s') :
    ∃ s s₂ r, ∃ b : SystemBlocks format c.2.round s₂ r,
      (reloadIfRequested c.2.reload c.1).result = .ok s ∧
      (monitorProcesses c.2.round s).result = .ok s₂ ∧
      (monitorSystem format c.2.round s₂).result = .ok r ∧
      (∃ i processes, s' = { r.2 with
        activeProcess := i
        processes := processes
        previousCpu := r.1
        previousNetwork := r.2.currentNetwork
        previousNetworkTime := r.2.currentNetworkTime }) ∧
      ∀ {δ : Type} (view : Action → Option δ), (∀ a : Action, a.OfReload → view a = none) →
        (iteration format c.1 c.2).shown (ofSystem view) = b.actions.filterMap view := by
  obtain ⟨s, s₂, r, hs, hs₂, hr, hs', -⟩ := shown_iteration_system printed?_of_ofReload h
  obtain ⟨b, hactions⟩ := monitorSystem_blocks hr
  refine ⟨s, s₂, r, b, hs, hs₂, hr, hs', fun view hview => ?_⟩
  obtain ⟨t, t₂, -, ht, ht₂, -, -, hshown⟩ := shown_iteration_system hview h
  obtain rfl := Except.ok.inj (hs.symm.trans ht)
  obtain rfl := Except.ok.inj (hs₂.symm.trans ht₂)
  rw [hshown, shown, hactions]

/-- What a completed turn of a run prints, from the two sampling points. -/
theorem readings_of_completed {calls : StartCalls} (hs₀ : (start calls).result = .ok s₀)
    (hc : c ∈ taken (iteration format) s₀ its) (h : (iteration format c.1 c.2).result = .ok s') :
    ∃ before s baseline processes reading, PointBefore format calls s₀ its c before ∧
      (reloadIfRequested c.2.reload c.1).result = .ok s ∧
      (baseline = true ↔ AppliesReload c.1 c.2) ∧
      (∀ i, i.val < s.processCount → (monitorProcessOnce s.config (c.2.round.processes i)
        (s.processes i)).result = .ok (processes i)) ∧
      readings s.config before baseline c.2.round
        ((processIndices s.processCount).map processes) = some reading ∧
      (iteration format c.1 c.2).shown (ofSystem Action.printed?) = [reading] := by
  obtain ⟨before, hbefore, hholds, hreset⟩ := heldPoint_of_taken hs₀ hc
  obtain ⟨s, s₂, r, b, hs, hs₂, -, -, hshown⟩ := blocks_of_completed h
  obtain ⟨hholds, hbaseline⟩ := heldPoint_of_reload hholds hreset hs
  obtain ⟨hmonitored, -, heq⟩ := run_monitorProcess_ok (nodup_processIndices _) hs₂
  have hholds₂ : HoldsPoint s₂ s₂.config before := by
    rw [heq]
    exact ⟨hholds.cpu, hholds.network⟩
  have hreading := b.reading_eq hholds₂
  have hconfig : s₂.config = s.config := by rw [heq]
  have hbaseline₂ : s₂.networkBaselineReset = s.networkBaselineReset := by rw [heq]
  have hcount : s₂.processCount = s.processCount := by rw [heq]
  rw [hconfig, hbaseline₂, hcount] at hreading
  exact ⟨before, s, s.networkBaselineReset, s₂.processes, b.reading, hbefore, hs, hbaseline,
    fun i hi => hmonitored i (mem_processIndices.mpr hi), hreading,
    (hshown _ printed?_of_ofReload).trans b.printed_actions⟩

/-- **Every turn** of a run that is completed prints, once, the readings of two consecutive
sampling points: the one right before and its own, under the configuration in effect; and it
shows the processes as it has monitored them. Right behind a reload that was applied, and only
there, the speeds are those of a new baseline. A turn that stops prints nothing. -/
theorem printed_readings (format : OutputFormat) (calls : StartCalls) (its : List Iteration)
    (s₀ : MainState) (hs₀ : (start calls).result = .ok s₀) :
    ∀ c ∈ taken (iteration format) s₀ its,
      (∀ s', (iteration format c.1 c.2).result = .ok s' →
        ∃ before s baseline processes reading, PointBefore format calls s₀ its c before ∧
          (reloadIfRequested c.2.reload c.1).result = .ok s ∧
          (baseline = true ↔ AppliesReload c.1 c.2) ∧
          (∀ i, i.val < s.processCount → (monitorProcessOnce s.config (c.2.round.processes i)
            (s.processes i)).result = .ok (processes i)) ∧
          readings s.config before baseline c.2.round
            ((processIndices s.processCount).map processes) = some reading ∧
          (iteration format c.1 c.2).shown (ofSystem Action.printed?) = [reading]) ∧
      ∀ r, (iteration format c.1 c.2).result = .error r →
        (iteration format c.1 c.2).shown (ofSystem Action.printed?) = [] := by
  intro c hc
  exact ⟨fun s' hs' => readings_of_completed hs₀ hc hs', iteration_showsAtEnd format c.1 c.2⟩

/-- Of two rounds, the second one prints the readings since the first one. -/
theorem printed_readings_twice :
    ∃ s₀ c, c ∈ taken (iteration .json) s₀ [⟨none, receivingRound 1⟩, ⟨none, receivingRound 3⟩] ∧
      ∃ before reading, PointBefore .json receivingStart s₀
          [⟨none, receivingRound 1⟩, ⟨none, receivingRound 3⟩] c before ∧
        (iteration .json c.1 c.2).shown (ofSystem Action.printed?) = [reading] := by
  have hok : ((start receivingStart).result.map fun s₀ =>
      (taken (iteration .json) s₀ [⟨none, receivingRound 1⟩, ⟨none, receivingRound 3⟩]).any fun c =>
        (iteration .json c.1 c.2).result.toBool) = .ok true := by decide +kernel
  obtain ⟨s₀, hs₀, hany⟩ := ok_of_map_ok hok
  obtain ⟨c, hc, hreturns⟩ := List.any_eq_true.mp hany
  cases hs' : (iteration .json c.1 c.2).result with
  | error r =>
    rw [hs'] at hreturns
    cases hreturns
  | ok s' =>
    obtain ⟨before, _, _, _, reading, hbefore, -, -, -, -, hshown⟩ :=
      (printed_readings .json receivingStart _ s₀ hs₀ c hc).1 s' hs'
    exact ⟨s₀, c, hc, before, reading, hbefore, hshown⟩

end EdgeSentinel.Monitor
