import EdgeSentinel.Config.Fresh
import EdgeSentinel.Monitor.SetUp
import EdgeSentinel.Trace.Lockstep

/-!
# Reloading is restarting

The start and the reload are two sequences of statements that were copied from each other
by hand. A reload finds a state with a history: records of processes, levels, counters.

## What is proved

* `Agree` — two states that agree in everything but the history of the network, of the CPU
  sample and of the periodic log.
* `agree_of_reload` — the state behind a reload agrees with the one behind a start with the
  same file, whatever there was before.
* `round_lockstep`, `run_lockstep` — from states that agree, turns of the loop that
  are given the same answers, and that come to the same CPU usage of the system, do the same
  and end in states that agree.
* `reload_eq_restart` — so a reload is a restart, for everything that follows.
-/

namespace EdgeSentinel.Monitor

open CLib Config Trace Trace.Traced

/-! ### States that agree -/

/-- Two states that agree in everything but the history of the network, of the CPU sample and
of the periodic log. -/
structure Agree (s s' : MainState) : Prop where
  /-- The configuration. -/
  config : SameConfig s.config s'.config
  /-- The limit of the log size. -/
  currentLogMaxSize : s'.currentLogMaxSize = s.currentLogMaxSize
  /-- The number of processes. -/
  processCount : s'.processCount = s.processCount
  /-- The processes in use. -/
  processes : ∀ i, i.val < s.processCount → s'.processes i = s.processes i
  /-- The process in work. -/
  activeProcess : s'.activeProcess = s.activeProcess
  /-- It is one of them. -/
  activeProcess_lt : s.activeProcess.val < s.processCount
  /-- The CPU level seen last. -/
  cpuBaseline : s'.cpuBaseline.seen = s.cpuBaseline.seen
  /-- The memory level seen last. -/
  memoryBaseline : s'.memoryBaseline.seen = s.memoryBaseline.seen
  /-- The disk level seen last. -/
  diskBaseline : s'.diskBaseline.seen = s.diskBaseline.seen
  /-- The level of the system seen last. -/
  systemBaseline : s'.systemBaseline.seen = s.systemBaseline.seen

/-- No level of the system has been seen. -/
structure LevelsUninitialized (s : MainState) : Prop where
  /-- No CPU level. -/
  cpu : s.cpuBaseline.initialized = false
  /-- No memory level. -/
  memory : s.memoryBaseline.initialized = false
  /-- No disk level. -/
  disk : s.diskBaseline.initialized = false
  /-- No level of the system. -/
  system : s.systemBaseline.initialized = false

variable {config config' : AppConfig} {s s' s₀ : MainState} {format : OutputFormat}

theorem targetProcessName_same (h : SameConfig config config') (i : ProcessIndex) :
    targetProcessName config' i = targetProcessName config i := by
  obtain ⟨hname, -, -⟩ := h
  unfold targetProcessName
  rw [hname.cstr_eq]

/-- The same configuration makes the same records. -/
theorem freshProcess_same (h : SameConfig config config') (scans : ProcessIndex → ProcFs)
    (getpid : Int32) (i : ProcessIndex) :
    freshProcess config' scans getpid i = freshProcess config scans getpid i := by
  unfold freshProcess initialProcessPid
  rw [targetProcessName_same h, h.congr AppConfig.processPid fun _ _ _ _ => rfl]

theorem monitoredProcessCount_same (h : SameConfig config config') :
    monitoredProcessCount config' = monitoredProcessCount config :=
  h.congr monitoredProcessCount fun _ _ _ _ => rfl

/-- The last process in use is one in use. -/
theorem getLastD_processIndices_lt {count : ℕ} {i : ProcessIndex} (hi : i.val < count) :
    ((processIndices count).getLastD i).val < count := by
  have hmem : (processIndices count).getLastD i ∈ i :: processIndices count :=
    List.getLastD_mem_cons
  rcases List.mem_cons.mp hmem with h | h
  · rw [h]
    exact hi
  · exact mem_processIndices.mp h

theorem monitoredProcessCount_pos (config : AppConfig) : 0 < monitoredProcessCount config := by
  unfold monitoredProcessCount
  split_ifs with h
  · exact UInt32.lt_iff_toNat_lt.mp h
  · exact Nat.one_pos

/-- What is set up for the same configuration agrees, if the levels do. -/
theorem agree_setUp (scans : ProcessIndex → ProcFs) (getpid : Int32) (s s' : MainState)
    (hsame : SameConfig s.config s'.config) (hlimit : s'.currentLogMaxSize = s.currentLogMaxSize)
    (hcpu : s'.cpuBaseline.seen = s.cpuBaseline.seen)
    (hmemory : s'.memoryBaseline.seen = s.memoryBaseline.seen)
    (hdisk : s'.diskBaseline.seen = s.diskBaseline.seen)
    (hsystem : s'.systemBaseline.seen = s.systemBaseline.seen) :
    Agree (setUp s.config scans getpid s) (setUp s'.config scans getpid s') where
  config := hsame
  currentLogMaxSize := hlimit
  processCount := monitoredProcessCount_same hsame
  processes := fun i hi => by
    have hi : i.val < monitoredProcessCount s.config := hi
    show (if i.val < monitoredProcessCount s'.config then
        freshProcess s'.config scans getpid i else _) =
      if i.val < monitoredProcessCount s.config then freshProcess s.config scans getpid i else _
    rw [if_pos (monitoredProcessCount_same hsame ▸ hi), if_pos hi, freshProcess_same hsame]
  activeProcess := by
    show (processIndices (monitoredProcessCount s'.config)).getLastD 0 =
      (processIndices (monitoredProcessCount s.config)).getLastD 0
    rw [monitoredProcessCount_same hsame]
  activeProcess_lt := getLastD_processIndices_lt (monitoredProcessCount_pos _)
  cpuBaseline := hcpu
  memoryBaseline := hmemory
  diskBaseline := hdisk
  systemBaseline := hsystem

/-- A start with a file that a reload accepts does not fall back on the defaults. -/
theorem startConfig_same {calls : ReloadCalls} (hacc : ReloadAccepted calls s)
    (memory : AppConfig) : SameConfig (startConfig memory calls.configFile)
      (reloadConfig calls s) := by
  obtain ⟨-, hsame⟩ := sameConfig_configLoad calls.configFile memory s.reloadedConfig
  have hvalid : configValidate (configLoad calls.configFile (configSetDefaults memory)).2 = none := by
    rw [← configValidate_eq hsame]
    exact hacc.2
  unfold startConfig
  dsimp only
  rw [if_neg (not_not.mpr hvalid)]
  exact hsame

/-- **The state behind a reload** that is applied agrees with the one behind a start with the
same file and the same answers, and no level of the system has been seen in either. -/
theorem agree_of_reload {start : StartCalls} {reload : ReloadCalls} {s₁ : MainState}
    (hs₀ : (Monitor.start start).result = .ok s₀) (hattempt : attemptReload reload s = (none, s₁))
    (hs' : (Monitor.reload reload s).result = .ok s')
    (hfile : start.configFile = reload.configFile) (hscans : start.scans = reload.scans)
    (hpid : start.getpid = reload.getpid) :
    Agree s₀ s' ∧ LevelsUninitialized s₀ ∧ LevelsUninitialized s' := by
  obtain ⟨previousCpu, previousNetwork, previousNetworkTime, rfl⟩ := start_ok hs₀
  obtain ⟨step, hstep, -⟩ | ⟨hacc, s₂, hstep, hconfig, rfl⟩ := reload_ok hs'
  · rw [hstep] at hattempt
    cases hattempt
  have hsame := startConfig_same hacc start.memory.config
  rw [← hfile, ← hconfig] at hsame
  obtain ⟨hnot, -⟩ | ⟨-, step, network, time, hcases, -⟩ := attemptReload_cases reload s
  · exact absurd hacc hnot
  rw [hstep] at hcases
  obtain ⟨-, rfl⟩ := Prod.mk.inj hcases
  refine ⟨?_, ⟨rfl, rfl, rfl, rfl⟩, ⟨rfl, rfl, rfl, rfl⟩⟩
  unfold started
  rw [hscans, hpid]
  exact agree_setUp reload.scans reload.getpid { start.memory with
    config := startConfig start.memory.config start.configFile
    currentLogMaxSize := (startConfig start.memory.config start.configFile).logMaxSize
    previousCpu := previousCpu
    previousNetwork := previousNetwork
    previousNetworkTime := previousNetworkTime
    networkBaselineReset := false
    cpuBaseline := .unset
    memoryBaseline := .unset
    diskBaseline := .unset
    systemBaseline := .unset
    logSampleCounter := 0 } _ hsame (hsame.congr AppConfig.logMaxSize fun _ _ _ _ => rfl)
    rfl rfl rfl rfl

/-! ### What is shown -/

/-- The network speed that is left out. -/
def noSpeed : NetworkSpeedDisplay := ⟨.finite 0, []⟩

/-- An action, but for the speed of the network and the periodic log. -/
def withoutHistory : Action → Option Action
  | .speedCalculated _ _ _ => none
  | .logWrite .periodic _ _ _ => none
  | .printed format snapshot _ _ =>
    some (.printed format { snapshot with
      downloadBytesPerSecond := .finite 0, uploadBytesPerSecond := .finite 0 } noSpeed noSpeed)
  | action => some action

/-- What is compared of an event. -/
def comparedEvent (e : Event) : Option Event := (withoutHistory e.action).map (Event.mk e.source)

/-- The reasons for which one of two states that agree may stop alone: the speed of the
network, and the periodic log. -/
def Exit.OfHistory : Exit → Prop
  | .networkSpeed | .downloadSpeed | .uploadSpeed | .periodicLog => True
  | _ => False

/-! ### The same configuration -/

/-- The same configuration is the same for its targets. -/
theorem sameForTargets (h : SameConfig config config') : SameForTargets config config' where
  logFile := by
    obtain ⟨-, -, hlog⟩ := h
    exact hlog.cstr_eq
  notificationEnabled := h.congr AppConfig.notificationEnabled fun _ _ _ _ => rfl
  notificationCommand := by
    obtain ⟨-, hcommand, -⟩ := h
    exact hcommand.cstr_eq
  processCpuWarningThreshold := h.congr AppConfig.processCpuWarningThreshold fun _ _ _ _ => rfl
  processCpuCriticalThreshold := h.congr AppConfig.processCpuCriticalThreshold fun _ _ _ _ => rfl
  processMemoryWarningThresholdMib :=
    h.congr AppConfig.processMemoryWarningThresholdMib fun _ _ _ _ => rfl
  processMemoryCriticalThresholdMib :=
    h.congr AppConfig.processMemoryCriticalThresholdMib fun _ _ _ _ => rfl

/-! ### A round -/

/-- A turn of the loop over the processes. -/
theorem monitorProcess_lockstep (calls : RoundCalls) (h : Agree s s') {i : ProcessIndex}
    (hi : i.val < s.processCount) :
    Lockstep comparedEvent (fun t t' => t.processCount = s.processCount ∧ Agree t t')
      Exit.OfHistory (monitorProcess calls s i) (monitorProcess calls s' i) := by
  unfold monitorProcess
  rw [h.processes i hi, monitorProcessOnce_congr (sameForTargets h.config)]
  refine .bind (.refl (fun _ => rfl) _) ?_
  rintro p _ rfl
  refine .pure ⟨rfl, { h with
    processes := fun j hj => ?_, activeProcess := rfl, activeProcess_lt := hi }⟩
  show Function.update s'.processes i p j = Function.update s.processes i p j
  by_cases hji : j = i
  · subst hji
    rw [Function.update_self, Function.update_self]
  · rw [Function.update_of_ne hji, Function.update_of_ne hji]
    exact h.processes j hj

theorem monitorProcesses_lockstep (calls : RoundCalls) (h : Agree s s') :
    Lockstep comparedEvent Agree Exit.OfHistory (monitorProcesses calls s)
      (monitorProcesses calls s') := by
  unfold monitorProcesses
  rw [h.processCount]
  refine .mono (.run (R := fun is t t' => (∀ i ∈ is, i.val < s.processCount) ∧
    t.processCount = s.processCount ∧ Agree t t') ?_
    ⟨fun i hi => mem_processIndices.mp hi, rfl, h⟩) fun _ _ h => h.2.2
  rintro i is t t' ⟨his, hcount, hagree⟩
  refine (monitorProcess_lockstep calls hagree (hcount ▸ his i List.mem_cons_self)).mono ?_
  rintro u u' ⟨hcount', hagree'⟩
  exact ⟨fun j hj => his j (List.mem_cons_of_mem _ hj), hcount'.trans hcount, hagree'⟩

/-- What is compared of an action of the system. -/
def comparedSystem (a : Action) : Option Event := comparedEvent ⟨.system, a⟩

/-- Levels that were seen alike are watched alike. -/
theorem watchLevel_lockstep {baseline baseline' : LevelBaseline}
    (hseen : baseline'.seen = baseline.seen) (level : AlertLevel)
    {changed changed' : AlertLevel → Traced Action Exit PUnit}
    (hchanged : ∀ previous, changed' previous = changed previous) :
    Lockstep comparedSystem (fun b b' => b'.seen = b.seen) Exit.OfHistory
      (watchLevel baseline level changed) (watchLevel baseline' level changed') := by
  obtain rfl : changed' = changed := funext hchanged
  obtain ⟨previous, initialized⟩ := baseline
  obtain ⟨previous', initialized'⟩ := baseline'
  cases initialized with
  | false =>
    cases initialized' with
    | false => exact .pure rfl
    | true => cases hseen
  | true =>
    cases initialized' with
    | false => cases hseen
    | true =>
      obtain rfl : previous' = previous := Option.some.inj hseen
      exact .refl (R := fun b b' : LevelBaseline => b'.seen = b.seen) (fun _ => rfl) _

theorem gradePercentage_lockstep (hconfig : SameConfig config config') (now : ℤ)
    (metric : AlertMetric) (target : Bytes) (percent warning critical : Double)
    {baseline baseline' : LevelBaseline} (hseen : baseline'.seen = baseline.seen) :
    Lockstep comparedSystem (fun r r' => r'.1 = r.1 ∧ r'.2.seen = r.2.seen) Exit.OfHistory
      (gradePercentage config now metric target percent warning critical baseline)
      (gradePercentage config' now metric target percent warning critical baseline') :=
  .emit_bind rfl (.bind (watchLevel_lockstep hseen _ fun _ =>
    sendAlertChangeNotification_congr (sameForTargets hconfig) _ _) fun _ _ h => .pure ⟨rfl, h⟩)

/-- The CPU usage is the same, if the samples before do not matter. -/
theorem gradeSystemCpu_lockstep (calls : RoundCalls) (h : Agree s s')
    (hcpu : ∀ current, readCpuTimes calls.procStat = some current →
      calculateCpuUsage s'.previousCpu current = calculateCpuUsage s.previousCpu current) :
    Lockstep comparedSystem (fun r r' => r'.1 = r.1 ∧ r'.2.1 = r.2.1 ∧ r'.2.2.1 = r.2.2.1 ∧
      Agree r.2.2.2 r'.2.2.2) Exit.OfHistory (gradeSystemCpu calls s) (gradeSystemCpu calls s') := by
  refine .orStop_bind fun current hcurrent => ?_
  dsimp only
  rw [hcpu current hcurrent, h.config.congr AppConfig.cpuWarningThreshold fun _ _ _ _ => rfl,
    h.config.congr AppConfig.cpuCriticalThreshold fun _ _ _ _ => rfl]
  refine .check_bind Iff.rfl fun _ => .bind (gradePercentage_lockstep h.config _ _ _ _ _ _
    h.cpuBaseline) ?_
  rintro ⟨level, baseline⟩ ⟨_, baseline'⟩ ⟨rfl, hseen⟩
  exact .pure ⟨rfl, rfl, rfl, { h with cpuBaseline := hseen }⟩

/-- States that agree, and the network as it was sampled in this round. -/
def AgreeSampled (s s' : MainState) : Prop := Agree s s' ∧ s'.currentNetwork = s.currentNetwork

/-- Only the history of the network has changed. -/
def NetworkHistoryChanged (s s' : MainState) : Prop :=
  ∃ network time reset, s' = { s with
    previousNetwork := network, previousNetworkTime := time, networkBaselineReset := reset }

/-- What is done with a sample of the network shows nothing, and may stop alone. -/
theorem measureNetworkSpeed_hidden (network : NetworkInfo) (time : Timespec) (s : MainState) :
    (measureNetworkSpeed network time s).Emits (fun e => comparedSystem e = none) ∧
    (measureNetworkSpeed network time s).Yields (fun r => NetworkHistoryChanged s r.2)
      Exit.OfHistory := by
  unfold measureNetworkSpeed
  split_ifs
  · exact ⟨.pure, .pure ⟨_, _, _, rfl⟩⟩
  · exact ⟨.emit_bind rfl (.orStop_bind fun _ => .pure),
      .emit_bind (.orStop_bind (fun _ _ => .pure ⟨_, _, _, rfl⟩) fun _ => trivial)⟩

/-- The network is sampled alike. The speed may differ, and stop one of the two alone. -/
theorem sampleNetwork_lockstep (calls : RoundCalls) (h : Agree s s') :
    Lockstep comparedSystem (fun r r' => AgreeSampled r.2 r'.2) Exit.OfHistory
      (sampleNetwork calls s) (sampleNetwork calls s') := by
  unfold sampleNetwork
  rw [h.config.congr (readNetworkInfoFiltered · calls.procNetDev) fun _ _ _ _ => rfl,
    h.config.congr selectedInterfaces fun _ _ _ _ => rfl]
  refine .orStop_bind fun network _ => .orStop_bind fun time _ => .emit_bind rfl ?_
  have hrest : ∀ t : MainState, Yields (measureNetworkSpeed network time t >>= fun r => do
      let download ← orStop .downloadSpeed (convertNetworkSpeed r.1.downloadBytesPerSec)
      let upload ← orStop .uploadSpeed (convertNetworkSpeed r.1.uploadBytesPerSec)
      pure ((⟨r.1, download, upload⟩ : NetworkSample), r.2))
      (fun r => NetworkHistoryChanged t r.2) Exit.OfHistory := fun t =>
    .bind (measureNetworkSpeed_hidden network time t).2 fun r hr => .orStop_bind (fun _ _ =>
      .orStop_bind (fun _ _ => .pure hr) fun _ => trivial) fun _ => trivial
  refine .hidden (.bind (measureNetworkSpeed_hidden _ _ _).1 fun _ _ =>
      .orStop_bind fun _ => .orStop_bind fun _ => .pure) (hrest _)
    (.bind (measureNetworkSpeed_hidden _ _ _).1 fun _ _ =>
      .orStop_bind fun _ => .orStop_bind fun _ => .pure) (hrest _) ?_
  rintro ⟨sample, t⟩ ⟨sample', t'⟩ ⟨_, _, _, ht⟩ ⟨_, _, _, ht'⟩
  dsimp only at ht ht' ⊢
  subst ht ht'
  exact ⟨{ h with }, rfl⟩

theorem gradeSystemMemory_lockstep (calls : RoundCalls) (h : AgreeSampled s s') :
    Lockstep comparedSystem (fun r r' => r'.1 = r.1 ∧ r'.2.1 = r.2.1 ∧ AgreeSampled r.2.2 r'.2.2)
      Exit.OfHistory (gradeSystemMemory calls s) (gradeSystemMemory calls s') := by
  unfold gradeSystemMemory
  rw [h.1.config.congr AppConfig.memoryWarningThreshold fun _ _ _ _ => rfl,
    h.1.config.congr AppConfig.memoryCriticalThreshold fun _ _ _ _ => rfl]
  refine .orStop_bind fun memory _ => .bind (gradePercentage_lockstep h.1.config _ _ _ _ _ _
    h.1.memoryBaseline) ?_
  rintro ⟨level, baseline⟩ ⟨_, baseline'⟩ ⟨rfl, hseen⟩
  exact .pure ⟨rfl, rfl, { h.1 with memoryBaseline := hseen }, h.2⟩

theorem gradeDisk_lockstep (calls : RoundCalls) (h : AgreeSampled s s') :
    Lockstep comparedSystem (fun r r' => r'.1 = r.1 ∧ r'.2.1 = r.2.1 ∧ AgreeSampled r.2.2 r'.2.2)
      Exit.OfHistory (gradeDisk calls s) (gradeDisk calls s') := by
  unfold gradeDisk
  rw [h.1.config.congr AppConfig.diskWarningThreshold fun _ _ _ _ => rfl,
    h.1.config.congr AppConfig.diskCriticalThreshold fun _ _ _ _ => rfl]
  refine .orStop_bind fun disk _ => .bind (gradePercentage_lockstep h.1.config _ _ _ _ _ _
    h.1.diskBaseline) ?_
  rintro ⟨level, baseline⟩ ⟨_, baseline'⟩ ⟨rfl, hseen⟩
  exact .pure ⟨rfl, rfl, { h.1 with diskBaseline := hseen }, h.2⟩

theorem watchSystemLevel_lockstep (calls : RoundCalls) (level : AlertLevel) (percentages : Bytes)
    (h : AgreeSampled s s') :
    Lockstep comparedSystem AgreeSampled Exit.OfHistory
      (watchSystemLevel calls level percentages s) (watchSystemLevel calls level percentages s') := by
  refine .bind (watchLevel_lockstep h.1.systemBaseline level fun previous => ?_) fun b b' hseen =>
    .pure ⟨{ h.1 with systemBaseline := hseen }, h.2⟩
  simp only [writeLog_congr (sameForTargets h.1.config)]

/-- The periodic log may be written in one of the two alone. -/
theorem writePeriodicLog_lockstep (calls : RoundCalls) (level : AlertLevel) (percentages : Bytes)
    (h : AgreeSampled s s') :
    Lockstep comparedSystem AgreeSampled Exit.OfHistory
      (writePeriodicLog calls level percentages s) (writePeriodicLog calls level percentages s') := by
  have hemits : ∀ t : MainState, (writePeriodicLog calls level percentages t).Emits
      (fun e => comparedSystem e = none) := writePeriodicLog_emits (fun _ _ _ => rfl) _ _ _
  have hyields : ∀ t : MainState, (writePeriodicLog calls level percentages t).Yields
      (fun t' => ∃ counter, t' = { t with logSampleCounter := counter }) Exit.OfHistory := by
    intro t
    unfold writePeriodicLog
    split_ifs
    · exact .seq (writeLog_yields _ _ _ _ _ trivial) fun _ => .pure ⟨_, rfl⟩
    · exact .pure ⟨_, rfl⟩
  refine .hidden (hemits s) (hyields s) (hemits s') (hyields s') ?_
  rintro t t' ⟨_, rfl⟩ ⟨_, rfl⟩
  exact ⟨{ h.1 with }, h.2⟩

/-- **The system part of a round.** -/
theorem monitorSystem_lockstep (format : OutputFormat) (calls : RoundCalls) (h : Agree s s')
    (hcpu : ∀ current, readCpuTimes calls.procStat = some current →
      calculateCpuUsage s'.previousCpu current = calculateCpuUsage s.previousCpu current) :
    Lockstep comparedSystem (fun r r' => r'.1 = r.1 ∧ Agree r.2 r'.2) Exit.OfHistory
      (monitorSystem format calls s) (monitorSystem format calls s') := by
  refine .bind (gradeSystemCpu_lockstep calls h hcpu) ?_
  rintro ⟨currentCpu, cpuUsage, cpuLevel, s₁⟩ ⟨_, _, _, s₁'⟩ ⟨rfl, rfl, rfl, h₁⟩
  refine .bind (sampleNetwork_lockstep calls h₁) ?_
  rintro ⟨network, s₂⟩ ⟨network', s₂'⟩ h₂
  refine .bind (gradeSystemMemory_lockstep calls h₂) ?_
  rintro ⟨memory, memoryLevel, s₃⟩ ⟨_, _, s₃'⟩ ⟨rfl, rfl, h₃⟩
  refine .bind (gradeDisk_lockstep calls h₃) ?_
  rintro ⟨disk, diskLevel, s₄⟩ ⟨_, _, s₄'⟩ ⟨rfl, rfl, h₄⟩
  refine .bind (watchSystemLevel_lockstep calls _ _ h₄) fun s₅ s₅' h₅ => ?_
  refine .bind (writePeriodicLog_lockstep calls _ _ h₅) fun s₆ s₆' h₆ => ?_
  refine .orStop_bind fun uptime _ => .orStop_bind fun load _ => .orStop_bind fun time _ => ?_
  have hprocesses : (processIndices s₆'.processCount).map s₆'.processes =
      (processIndices s₆.processCount).map s₆.processes := by
    rw [h₆.1.processCount]
    exact List.map_congr_left fun i hi => h₆.1.processes i (mem_processIndices.mp hi)
  refine .emit_bind ?_ (.pure ⟨rfl, h₆.1⟩)
  dsimp only
  rw [hprocesses, h₆.2]
  rfl

/-- The clean-up finds the same process unavailable. -/
theorem forgetUnavailable_agree (h : Agree s s') :
    Agree (forgetUnavailable (afterOutput format s)) (forgetUnavailable (afterOutput format s')) := by
  have houtput : Agree (afterOutput format s) (afterOutput format s') := by
    cases format with
    | json => exact h
    | text =>
      refine { h with activeProcess := ?_, activeProcess_lt := ?_ }
      · show (processIndices s'.processCount).getLastD s'.activeProcess =
          (processIndices s.processCount).getLastD s.activeProcess
        rw [h.processCount, h.activeProcess]
      · exact getLastD_processIndices_lt h.activeProcess_lt
  generalize afterOutput format s = t at houtput ⊢
  generalize afterOutput format s' = t' at houtput ⊢
  have hname : t'.config.processName.cstr = t.config.processName.cstr := by
    have hconfig := houtput.config
    generalize t'.config = c at hconfig
    obtain ⟨hname, -, -⟩ := hconfig
    exact hname.cstr_eq
  have hactive := houtput.processes _ houtput.activeProcess_lt
  unfold forgetUnavailable
  rw [hname, houtput.activeProcess, hactive]
  split_ifs
  · refine { houtput with processes := fun i hi => ?_, activeProcess := rfl }
    show Function.update t'.processes t.activeProcess _ i =
      Function.update t.processes t.activeProcess _ i
    by_cases hia : i = t.activeProcess
    · subst hia
      rw [Function.update_self, Function.update_self]
    · rw [Function.update_of_ne hia, Function.update_of_ne hia]
      exact houtput.processes i hi
  · exact houtput

/-- **A round**, from states that agree, if it comes to the same CPU usage: it does the same,
and ends in states that agree, with the same CPU sample. -/
theorem round_lockstep (calls : RoundCalls) (h : Agree s s')
    (hcpu : ∀ current, readCpuTimes calls.procStat = some current →
      calculateCpuUsage s'.previousCpu current = calculateCpuUsage s.previousCpu current) :
    Lockstep comparedEvent (fun t t' => Agree t t' ∧ t'.previousCpu = t.previousCpu)
      Exit.OfHistory (round format calls s) (round format calls s') := by
  have hsample : ∀ t : MainState, (monitorProcesses calls t).Yields
      (fun t' => t'.previousCpu = t.previousCpu) fun _ => True := fun t =>
    ⟨fun t' ht' => (run_monitorProcess_ok (nodup_processIndices _) ht').2.2 ▸ rfl,
      fun _ _ => trivial⟩
  refine .bind ((monitorProcesses_lockstep calls h).and_yields (hsample s) (hsample s')) ?_
  rintro s₁ s₁' ⟨h₁, hprevious, hprevious'⟩
  refine .bind (.rename (monitorSystem_lockstep format calls h₁ ?_)) ?_
  · rw [hprevious, hprevious']
    exact hcpu
  · rintro ⟨currentCpu, s₂⟩ ⟨_, s₂'⟩ ⟨rfl, h₂⟩
    exact .pure ⟨{ forgetUnavailable_agree h₂ with }, rfl⟩

/-! ### A turn of the loop -/

/-- Two attempts to reload that have come as far as the same step; if none has failed, they
have read the same. -/
structure AgreeAttempted (attempt attempt' : Option ReloadStep × MainState) : Prop where
  /-- The step that failed. -/
  step : attempt'.1 = attempt.1
  /-- The states. -/
  agree : Agree attempt.2 attempt'.2
  /-- The configurations that were read. -/
  reloadedConfig : SameConfig attempt.2.reloadedConfig attempt'.2.reloadedConfig
  /-- The network that was read. -/
  currentNetwork : attempt.1 = none → attempt'.2.currentNetwork = attempt.2.currentNetwork
  /-- The time that was read. -/
  currentNetworkTime :
    attempt.1 = none → attempt'.2.currentNetworkTime = attempt.2.currentNetworkTime

/-- From states that agree, attempts to reload come to the same. -/
theorem attemptReload_agree (calls : ReloadCalls) (h : Agree s s') :
    AgreeAttempted (attemptReload calls s) (attemptReload calls s') := by
  obtain ⟨hload, hsame⟩ := sameConfig_configLoad calls.configFile s.reloadedConfig
    s'.reloadedConfig
  unfold attemptReload
  generalize configLoad calls.configFile (configSetDefaults s.reloadedConfig) = r at hload hsame ⊢
  generalize configLoad calls.configFile (configSetDefaults s'.reloadedConfig) = r' at hload hsame ⊢
  obtain ⟨_, c⟩ := r
  obtain ⟨loaded, c'⟩ := r'
  obtain rfl : loaded = _ := hload
  dsimp only at hsame ⊢
  have hlog : c'.logFile.cstr = c.logFile.cstr := by
    obtain ⟨-, -, hlog⟩ := hsame
    exact hlog.cstr_eq
  rw [configValidate_eq hsame, hlog, hsame.congr AppConfig.logMaxSize fun _ _ _ _ => rfl,
    h.currentLogMaxSize, hsame.congr (readNetworkInfoFiltered · calls.procNetDev) fun _ _ _ _ => rfl]
  by_cases hloaded : loaded = true
  swap
  · rw [if_pos hloaded, if_pos hloaded]
    exact ⟨rfl, { h with currentLogMaxSize := rfl }, hsame, nofun, nofun⟩
  rw [if_neg (not_not.mpr hloaded), if_neg (not_not.mpr hloaded)]
  by_cases hvalid : configValidate c = none
  swap
  · rw [if_pos hvalid, if_pos hvalid]
    exact ⟨rfl, { h with currentLogMaxSize := rfl }, hsame, nofun, nofun⟩
  rw [if_neg (not_not.mpr hvalid), if_neg (not_not.mpr hvalid)]
  by_cases hlogger : (loggerInit (mkdirCalls calls.mkdir) c.logFile.cstr c.logMaxSize
    s.currentLogMaxSize 0).succeeded = true
  swap
  · rw [if_pos hlogger, if_pos hlogger]
    exact ⟨rfl, { h with currentLogMaxSize := rfl }, hsame, nofun, nofun⟩
  rw [if_neg (not_not.mpr hlogger), if_neg (not_not.mpr hlogger)]
  cases readNetworkInfoFiltered c calls.procNetDev with
  | none => exact ⟨rfl, { h with currentLogMaxSize := rfl }, hsame, nofun, nofun⟩
  | some network =>
    cases calls.clock with
    | none => exact ⟨rfl, { h with currentLogMaxSize := rfl }, hsame, nofun, nofun⟩
    | some time =>
      exact ⟨rfl, { h with currentLogMaxSize := rfl }, hsame, fun _ => rfl, fun _ => rfl⟩

/-- The same configuration sets the same processes up. -/
theorem setUpProcesses_lockstep {phase : Phase} (hsame : SameConfig config config')
    (scans : ProcessIndex → ProcFs) (getpid : Int32) (s s' : MainState) :
    Lockstep comparedEvent (fun _ _ => True) Exit.OfHistory
      (setUpProcesses phase config scans getpid s) (setUpProcesses phase config' scans getpid s') := by
  unfold setUpProcesses
  dsimp only
  rw [monitoredProcessCount_same hsame]
  refine .check_bind Iff.rfl fun _ => .bind (R := fun _ _ => True) ?_ fun _ _ _ => .pure trivial
  generalize s.processes = processes
  generalize s'.processes = processes'
  induction processIndices (monitoredProcessCount config) generalizing processes processes' with
  | nil => exact .pure trivial
  | cons i is ih =>
    unfold initProcesses initialProcessPid
    rw [targetProcessName_same hsame, hsame.congr AppConfig.processPid fun _ _ _ _ => rfl]
    exact .orStop_bind fun _ _ => ih _ _

/-- **A reload**, from states that agree. -/
theorem reload_lockstep (calls : ReloadCalls) (h : Agree s s') :
    Lockstep comparedEvent Agree Exit.OfHistory (reload calls s) (reload calls s') := by
  obtain ⟨hstep, hagree, hconfig, hnetwork, htime⟩ := attemptReload_agree calls h
  unfold reload
  generalize attemptReload calls s = attempt at *
  generalize attemptReload calls s' = attempt' at *
  obtain ⟨_, t⟩ := attempt
  obtain ⟨step, t'⟩ := attempt'
  obtain rfl : step = _ := hstep
  cases step with
  | some step => exact .emit_bind rfl (.pure hagree)
  | none =>
    dsimp only at hagree hconfig hnetwork htime ⊢
    unfold applyReload
    rw [hnetwork rfl, htime rfl, hconfig.congr selectedInterfaces fun _ _ _ _ => rfl]
    refine .emit_bind rfl ?_
    dsimp only
    refine .bind ((setUpProcesses_lockstep hconfig calls.scans calls.getpid _ _).and_yields
      ⟨fun _ => setUpProcesses_ok, fun _ _ => trivial⟩
      ⟨fun _ => setUpProcesses_ok, fun _ _ => trivial⟩) ?_
    rintro u u' ⟨-, rfl, rfl⟩
    exact .emit_bind rfl (.pure (agree_setUp _ _ _ _ hconfig hagree.currentLogMaxSize
      rfl rfl rfl rfl))

theorem attemptReload_previousCpu (calls : ReloadCalls) (s : MainState) :
    (attemptReload calls s).2.previousCpu = s.previousCpu := by
  obtain ⟨-, step, hstep⟩ | ⟨-, step, network, time, hstep, -⟩ := attemptReload_cases calls s <;>
  · rw [hstep]

/-- A reload leaves the CPU sample alone. -/
theorem reload_previousCpu {calls : ReloadCalls} (h : (reload calls s).result = .ok s') :
    s'.previousCpu = s.previousCpu := by
  have hattempt := attemptReload_previousCpu calls s
  obtain ⟨step, hstep, -⟩ | ⟨-, s₁, hstep, -, rfl⟩ := reload_ok h
  · rwa [hstep] at hattempt
  · rw [hstep] at hattempt
    exact hattempt

theorem reloadIfRequested_lockstep (calls : Option ReloadCalls) (h : Agree s s') :
    Lockstep comparedEvent (fun t t' => Agree t t' ∧ t.previousCpu = s.previousCpu ∧
      t'.previousCpu = s'.previousCpu) Exit.OfHistory
      (reloadIfRequested calls s) (reloadIfRequested calls s') := by
  cases calls with
  | none => exact .pure ⟨h, rfl, rfl⟩
  | some calls =>
    exact (reload_lockstep calls h).and_yields ⟨fun _ => reload_previousCpu, fun _ _ => trivial⟩
      ⟨fun _ => reload_previousCpu, fun _ _ => trivial⟩

/-- The CPU usages of the system that turns of the loop come to, up to the first one in which
the CPU times cannot be read. -/
def cpuUsages : CpuTimes → List Iteration → List (Option Double)
  | _, [] => []
  | previous, it :: its =>
    match readCpuTimes it.round.procStat with
    | none => [none]
    | some current => some (calculateCpuUsage previous current) :: cpuUsages current its

/-- **Turns of the loop**, from states that agree: if they come to the same CPU usages, they
do the same. -/
theorem run_lockstep {its : List Iteration} (h : Agree s s')
    (hcpu : cpuUsages s'.previousCpu its = cpuUsages s.previousCpu its) :
    Lockstep comparedEvent Agree Exit.OfHistory (run (iteration format) s its)
      (run (iteration format) s' its) := by
  refine .mono (.run (R := fun its t t' => Agree t t' ∧
    cpuUsages t'.previousCpu its = cpuUsages t.previousCpu its) ?_ ⟨h, hcpu⟩) fun _ _ h => h.1
  rintro it its t t' ⟨hagree, husages⟩
  refine .bind (reloadIfRequested_lockstep it.reload hagree) ?_
  rintro u u' ⟨hu, hprevious, hprevious'⟩
  refine (round_lockstep it.round hu fun current hcurrent => ?_).mono ?_
  · rw [hprevious, hprevious']
    simp only [cpuUsages, hcurrent, List.cons.injEq, Option.some.injEq] at husages
    exact husages.1
  · rintro v v' ⟨hv, hsample⟩
    exact ⟨hv, by rw [hsample]⟩

/-- **Reloading is restarting**: a reload that is applied, in whatever state, leaves a state
behind that agrees with the one in which a fresh start with the same file, and the same
answers, enters its loop: no level of the system has been seen in either. What follows is
the same, turn by turn, if the CPU usages of the system are: the same levels, records,
notifications and output, the speed of the network and the periodic log apart. -/
theorem reload_eq_restart (format : OutputFormat) (startCalls : StartCalls)
    (reloadCalls : ReloadCalls) (s s₀ s₁ s' : MainState) (hs₀ : (start startCalls).result = .ok s₀)
    (hattempt : attemptReload reloadCalls s = (none, s₁))
    (hs' : (reload reloadCalls s).result = .ok s')
    (hfile : startCalls.configFile = reloadCalls.configFile)
    (hscans : startCalls.scans = reloadCalls.scans)
    (hpid : startCalls.getpid = reloadCalls.getpid) :
    Agree s₀ s' ∧ LevelsUninitialized s₀ ∧ LevelsUninitialized s' ∧
      ∀ its, cpuUsages s'.previousCpu its = cpuUsages s₀.previousCpu its →
        Lockstep comparedEvent Agree Exit.OfHistory (run (iteration format) s₀ its)
          (run (iteration format) s' its) := by
  obtain ⟨hagree, hlevels, hlevels'⟩ := agree_of_reload hs₀ hattempt hs' hfile hscans hpid
  exact ⟨hagree, hlevels, hlevels', fun its hcpu => run_lockstep hagree hcpu⟩

/-- A daemon that monitored `b` for a round and is told to monitor `a` goes on like one that
is started to monitor `a`. -/
theorem reload_eq_restart_quiet :
    ∃ s₀ s s', (start (quietStart .zero (ascii "process_names=a\n") (quietProc []))).result = .ok s₀ ∧
      (daemon .json (quietStart .zero (ascii "process_names=b\n") (quietProc []))
        [⟨none, quietRound (quietProc []) 1⟩]).result = .ok s ∧
      (reload (quietReload (ascii "process_names=a\n") (quietProc [])) s).result = .ok s' ∧
      Lockstep comparedEvent Agree Exit.OfHistory
        (run (iteration .json) s₀ [⟨none, quietRound (quietProc []) 6⟩])
        (run (iteration .json) s' [⟨none, quietRound (quietProc []) 6⟩]) := by
  have hstart : ((start (quietStart .zero (ascii "process_names=a\n") (quietProc []))).result.map
      fun s => s.previousCpu) = .ok ⟨1, 1, 1, 1, 1, 1, 1, 1⟩ := by decide +kernel
  have hdaemon : ((daemon .json (quietStart .zero (ascii "process_names=b\n") (quietProc []))
      [⟨none, quietRound (quietProc []) 1⟩]).result.map fun s =>
        ((attemptReload (quietReload (ascii "process_names=a\n") (quietProc [])) s).1,
          (reload (quietReload (ascii "process_names=a\n") (quietProc [])) s).result.map fun s' =>
            s'.previousCpu)) = .ok (none, .ok ⟨1, 1, 1, 1, 1, 1, 1, 1⟩) := by decide +kernel
  obtain ⟨s₀, hs₀, hcpu⟩ := ok_of_map_ok hstart
  obtain ⟨s, hs, h⟩ := ok_of_map_ok hdaemon
  obtain ⟨hattempt, hreload⟩ := Prod.mk.inj h
  obtain ⟨s', hs', hcpu'⟩ := ok_of_map_ok hreload
  refine ⟨s₀, s, s', hs₀, hs, hs', (reload_eq_restart .json
    (quietStart .zero (ascii "process_names=a\n") (quietProc []))
    (quietReload (ascii "process_names=a\n") (quietProc [])) s s₀ _ s' hs₀
    (Prod.ext hattempt rfl) hs' rfl rfl rfl).2.2.2 _ ?_⟩
  rw [hcpu, hcpu']

end EdgeSentinel.Monitor
