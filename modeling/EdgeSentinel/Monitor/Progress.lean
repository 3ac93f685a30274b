import EdgeSentinel.Monitor.CpuUsage
import EdgeSentinel.Monitor.MessageLengths
import EdgeSentinel.Monitor.SystemRecords

/-!
# Why a run stops, and when it goes on

`main` returns 1 in some thirty places. Some of them stand behind a call that fails; others behind
a number or a text that the program itself has made, and there the question is whether it can be
reached at all.

## The model

* `StartCalls.Fails`, `RoundCalls.Fails`, `Blames` — for each place, what the operating system has
  answered to bring the program there. Where the answer is `False`, no answer does.
* `StartCalls.Succeed`, `RoundCalls.Succeed` — a system on which all of that is well: the files can
  be read, the log can be written, and names are as short as Linux keeps them.

## What is proved

* `daemon_stops` — **a run that stops** has come across what its reason stands for, in its last
  turn: no number or text of the system's side ever ends it, and a process does only with a name
  or a state that is too long.
* `daemon_goesOn` — **a run goes on** for as long as all calls succeed, the clock advances from
  one round to the next and no process has a long name, whatever the configuration file says at the
  start and at every reload, whether reloads succeed or fail, and whatever else the processes do.
-/

namespace EdgeSentinel.Monitor

open CLib Config Trace Trace.Traced

variable {format : OutputFormat} {calls : RoundCalls} {s s' s₀ : MainState}
  {its : List Iteration} {c : MainState × Iteration} {before : SamplingPoint}

/-! ### Failures -/

/-- `/proc/net/dev` cannot be opened, or has not even its two headings. -/
def NetworkUnreadable (procNetDev : Option Bytes) : Prop :=
  ∀ file, procNetDev = some file → (fgetsPieces 512 file).length < 2

/-- The clock has not advanced between two sampling points. -/
def ClockStands (before now : Option Timespec) : Prop :=
  ∃ time time', before = some time ∧ now = some time' ∧ calculateElapsedSeconds time time' ≤ 0

/-- What the start has come across where it stops for this reason. -/
def StartCalls.Fails (calls : StartCalls) : Exit → Prop
  | .processInit .startup _ => ¬ 0 < calls.getpid
  | .sigaction => calls.sigactions = false
  | .initialCpuTimes => readCpuTimes calls.procStat = none
  | .initialNetwork => NetworkUnreadable calls.procNetDev
  | .initialClock => calls.clock = none
  | .logger =>
    let config := startConfig calls.memory.config calls.configFile
    (loggerInit (mkdirCalls calls.mkdir) config.logFile.cstr config.logMaxSize
      loggerDefaultMaxSizeBytes 0).succeeded = false
  | .startupLog => calls.startupLogWritten = false
  | _ => False

/-- What the system part of a round has come across where it stops for this reason. -/
def RoundCalls.Fails (calls : RoundCalls) (before : SamplingPoint) : Exit → Prop
  | .cpuTimes => readCpuTimes calls.procStat = none
  | .network => NetworkUnreadable calls.procNetDev
  | .clock => calls.clock = none
  | .networkSpeed => ClockStands before.clock calls.clock
  | .memory => getMemoryInfo calls.procMeminfo = none
  | .disk => calls.statvfs = none
  | .systemStatusLog => calls.systemStatusLogWritten = false
  | .periodicLog => calls.periodicLogWritten = false
  | .uptime => getSystemUptime calls.procUptime = none
  | .loadAverage => getLoadAverage calls.procLoadavg = none
  | .currentTime => calls.currentTime = none
  | _ => False

/-- What a turn of the loop has come across where it stops for this reason. -/
def Blames (before : SamplingPoint) (c : MainState × Iteration) : Exit → Prop
  | .processInit .reload _ => ∃ calls, c.2.reload = some calls ∧ ¬ 0 < calls.getpid
  | .process i failure => ∃ s, (reloadIfRequested c.2.reload c.1).result = .ok s ∧
    ((c.2.round.processes i).Fails failure ∨
      ¬ MessagesFit (c.2.round.processes i) (s.processes i))
  | reason => c.2.round.Fails before reason

/-- The variables of `main` hold the time of the sample before, if there is one to compare with. -/
def HoldsClock (s : MainState) (before : SamplingPoint) : Prop :=
  s.networkBaselineReset = false → before.clock = some s.previousNetworkTime

theorem HoldsPoint.holdsClock {config : AppConfig} (h : HoldsPoint s config before) :
    HoldsClock s before := fun hreset => (h.network hreset).time

/-- With a usable configuration nothing but the file decides whether the network can be read. -/
theorem networkUnreadable_of_none {config : AppConfig} {procNetDev : Option Bytes}
    (hcount : config.networkInterfaceCount.toNat ≤ maxNetworkInterfaces)
    (h : readNetworkInfoFiltered config procNetDev = none) : NetworkUnreadable procNetDev := by
  rintro file rfl
  rw [readNetworkInfoFiltered, if_neg (Nat.not_lt.mpr hcount)] at h
  match hpieces : fgetsPieces 512 file with
  | [] => exact Nat.zero_lt_two
  | [_] => exact Nat.one_lt_two
  | _ :: _ :: _ =>
    simp [hpieces] at h

/-! ### The system part of a round -/

/-- A speed between two samples is not negative, and can be shown. -/
theorem convertNetworkSpeed_some {q : ℚ} (h : 0 ≤ q) :
    ∃ shown, convertNetworkSpeed (.finite q) = some shown := by
  unfold convertNetworkSpeed
  dsimp only
  rw [if_neg (by simpa using h)]
  split_ifs <;> exact ⟨_, rfl⟩

theorem calculateNetworkSpeed_cases (previous current : NetworkInfo) (elapsed : ℚ) :
    (elapsed ≤ 0 ∧ calculateNetworkSpeed previous current elapsed = none) ∨
      ∃ q q', 0 ≤ q ∧ 0 ≤ q' ∧ calculateNetworkSpeed previous current elapsed =
        some ⟨.finite q, .finite q'⟩ := by
  unfold calculateNetworkSpeed
  split_ifs with h <;> first | exact .inl ⟨h, rfl⟩ | skip
  all_goals
    rw [not_le] at h
    exact .inr ⟨_, _, by positivity, by positivity, rfl⟩

/-- Measuring the speed stops only if the clock stands. -/
theorem measureNetworkSpeed_stops {network : NetworkInfo} {time : Timespec}
    (hs : HoldsClock s before) (htime : calls.clock = some time) :
    (measureNetworkSpeed network time s).Yields
      (fun r => ∃ q q', 0 ≤ q ∧ 0 ≤ q' ∧ r.1 = ⟨.finite q, .finite q'⟩) (calls.Fails before) := by
  unfold measureNetworkSpeed
  split_ifs with hreset
  · exact .pure ⟨0, 0, le_rfl, le_rfl, rfl⟩
  refine .emit_bind ?_
  obtain ⟨hle, hnone⟩ | ⟨q, q', hq, hq', hsome⟩ := calculateNetworkSpeed_cases s.previousNetwork
    network (calculateElapsedSeconds s.previousNetworkTime time)
  · rw [hnone]
    exact .orStop_bind nofun fun _ => ⟨_, _, hs (eq_false_of_ne_true hreset), htime, hle⟩
  · rw [hsome]
    exact .orStop_bind (fun _ h => .pure ⟨q, q', hq, hq', (Option.some.inj h).symm⟩) nofun

theorem sampleNetwork_stops (hs : HoldsClock s before)
    (hcount : s.config.networkInterfaceCount.toNat ≤ maxNetworkInterfaces) :
    (sampleNetwork calls s).Yields (fun _ => True) (calls.Fails before) := by
  refine .orStop_bind (fun network _ => .orStop_bind (fun time htime => .emit_bind ?_) id)
    fun hnone => networkUnreadable_of_none hcount hnone
  refine .bind (measureNetworkSpeed_stops hs htime) ?_
  rintro ⟨speed, s'⟩ ⟨q, q', hq, hq', rfl⟩
  obtain ⟨download, hdownload⟩ := convertNetworkSpeed_some hq
  obtain ⟨upload, hupload⟩ := convertNetworkSpeed_some hq'
  dsimp only
  rw [hdownload, hupload]
  exact .orStop_bind (fun _ _ => .orStop_bind (fun _ _ => .pure trivial) nofun) nofun

theorem gradeSystemCpu_stops (calls : RoundCalls) (before : SamplingPoint) (s : MainState) :
    (gradeSystemCpu calls s).Yields (fun r => OnlyLevels s r.2.2.2 ∧
      ∃ q, r.2.1 = .finite q ∧ |q| < (10 ^ 31 : ℕ)) (calls.Fails before) := by
  refine .orStop_bind (fun currentCpu _ => .check_bind (fun _ => .seq
    (gradePercentage_yields _ _ _ _ _ _ _ _) fun _ =>
      .pure ⟨⟨_, _, _, _, _, rfl⟩, calculateCpuUsage_bounded _ _⟩) fun hnegative => ?_) id
  -- the usage is never negative
  obtain ⟨q, hq, husage⟩ := calculateCpuUsage_nonneg s.previousCpu currentCpu
  rw [husage] at hnegative
  exact hnegative (by simpa using hq)

theorem gradeSystemMemory_stops (calls : RoundCalls) (before : SamplingPoint) (s : MainState) :
    (gradeSystemMemory calls s).Yields (fun r => ∃ q, r.1.usagePercent = .finite q ∧
      |q| < (10 ^ 31 : ℕ)) (calls.Fails before) :=
  .orStop_bind (fun _ hmemory => .seq (gradePercentage_yields _ _ _ _ _ _ _ _) fun _ =>
    .pure (getMemoryInfo_usagePercent hmemory)) id

theorem gradeDisk_stops (calls : RoundCalls) (before : SamplingPoint) (s : MainState) :
    (gradeDisk calls s).Yields (fun r => ∃ q, r.1.usagePercent = .finite q ∧
      |q| < (10 ^ 31 : ℕ)) (calls.Fails before) := by
  refine .orStop_bind (fun _ hdisk => .seq (gradePercentage_yields _ _ _ _ _ _ _ _) fun _ =>
    .pure (getDiskInfo_usagePercent hdisk)) fun hnone => ?_
  show calls.statvfs = none
  cases hstatvfs : calls.statvfs with
  | none => rfl
  | some filesystem =>
    rw [hstatvfs] at hnone
    cases hnone

/-- A record of the log that must be written stops nothing if it is. -/
theorem writeLog_stops {config : AppConfig} {call : LogCall} {level message : Bytes}
    {written : Bool} {failure : Exit} {E : Exit → Prop} (h : written = false → E failure) :
    (writeLog config call level message written failure).Yields (fun _ => True) E :=
  .emit_bind (.check (fun _ => trivial) fun hw => h (eq_false_of_ne_true hw))

/-- The record of a change of the level fits. -/
theorem watchSystemLevel_stops {level : AlertLevel} {percentages : Bytes}
    (h : percentages.length ≤ 129) (calls : RoundCalls) (before : SamplingPoint) (s : MainState) :
    (watchSystemLevel calls level percentages s).Yields (fun _ => True) (calls.Fails before) := by
  refine .seq (watchLevel_yields (fun previous => .check_bind (fun _ => ?_) fun hlong => ?_) _ _)
    fun _ => .pure trivial
  · exact writeLog_stops id
  · have h₁ := length_alertLevelToString_le previous
    have h₂ := length_alertLevelToString_le level
    have ht₁ : (ascii "System status changed: ").length = 23 := by decide
    have ht₂ : (ascii " -> ").length = 4 := by decide
    have ht₃ : (ascii " ").length = 1 := by decide
    simp only [List.length_append, ht₁, ht₂, ht₃, logMessageSize] at hlong
    omega

theorem writePeriodicLog_stops (calls : RoundCalls) (before : SamplingPoint) (level : AlertLevel)
    (percentages : Bytes) (s : MainState) :
    (writePeriodicLog calls level percentages s).Yields (fun _ => True) (calls.Fails before) := by
  unfold writePeriodicLog
  split_ifs
  · exact .seq (writeLog_stops id) fun _ => .pure trivial
  · exact .pure trivial

/-- **Where the system part of a round stops**: no usage is negative, no speed cannot be shown,
and no text is too long. -/
theorem monitorSystem_stops (hs : HoldsClock s before)
    (hcount : s.config.networkInterfaceCount.toNat ≤ maxNetworkInterfaces) :
    (monitorSystem format calls s).Yields (fun _ => True) (calls.Fails before) := by
  refine .bind (gradeSystemCpu_stops calls before s) ?_
  rintro ⟨currentCpu, cpuUsage, cpuLevel, _⟩ ⟨⟨_, _, _, _, _, rfl⟩, hcpu⟩
  refine .seq (sampleNetwork_stops hs hcount) ?_
  rintro ⟨network, s₂⟩
  refine .bind (gradeSystemMemory_stops calls before s₂) ?_
  rintro ⟨memory, memoryLevel, s₃⟩ hmemory
  refine .bind (gradeDisk_stops calls before s₃) ?_
  rintro ⟨disk, diskLevel, s₄⟩ hdisk
  refine .seq (watchSystemLevel_stops (length_percentagesMessage_le hcpu hmemory hdisk) _ _ _)
    fun s₅ => ?_
  refine .seq (writePeriodicLog_stops _ _ _ _ _) fun s₆ => ?_
  exact .orStop_bind (fun _ _ => .orStop_bind (fun _ _ => .orStop_bind (fun _ _ =>
    .emit_bind (.pure trivial)) id) id) id

/-! ### A turn of the loop -/

/-- Where the loop over the processes stops, it stops in the call for one of them, with the
record that was there in front of the loop. -/
theorem run_monitorProcess_stops {is : List ProcessIndex} (hnd : is.Nodup) {reason : Exit}
    (h : (run (monitorProcess calls) s is).result = .error reason) :
    ∃ i ∈ is, ∃ failure, reason = .process i failure ∧
      (monitorProcessOnce s.config (calls.processes i) (s.processes i)).result =
        .error failure := by
  induction is generalizing s with
  | nil => cases h
  | cons i is ih =>
    obtain ⟨hi, hnd⟩ := List.nodup_cons.mp hnd
    rw [run] at h
    cases hcall : (monitorProcessOnce s.config (calls.processes i) (s.processes i)).result with
    | error failure =>
      have hstep : (monitorProcess calls s i).result = .error (.process i failure) := by
        unfold monitorProcess
        rw [bind_of_error (r := .process i failure) (by simp [rename, hcall, Except.mapError])]
      rw [bind_of_error hstep] at h
      exact ⟨i, List.mem_cons_self, failure, (Except.error.inj h).symm, hcall⟩
    | ok p =>
      have hstep : (monitorProcess calls s i).result = .ok { s with
          activeProcess := i, processes := Function.update s.processes i p } := by
        unfold monitorProcess
        rw [bind_of_ok (result_rename_ok.mpr hcall)]
        rfl
      rw [bind_of_ok hstep] at h
      obtain ⟨j, hj, failure, hreason, hfailure⟩ := ih hnd h
      have hne : j ≠ i := fun he => hi (he ▸ hj)
      dsimp only at hfailure
      rw [Function.update_of_ne hne] at hfailure
      exact ⟨j, List.mem_cons_of_mem _ hj, failure, hreason, hfailure⟩

/-- Setting up the processes of a usable configuration stops only for a PID that is none. -/
theorem setUpProcesses_stops {phase : Phase} {config : AppConfig} {scans : ProcessIndex → ProcFs}
    {getpid : Int32} (h : Usable config) (s : MainState) :
    (setUpProcesses phase config scans getpid s).Yields (fun _ => True)
      fun reason => (∃ i, reason = .processInit phase i) ∧ ¬ 0 < getpid := by
  by_cases hpid : 0 < getpid
  · rw [setUpProcesses_eq h hpid]
    exact .pure trivial
  have hinit : ∀ (is : List ProcessIndex) (processes : ProcessIndex → MonitoredProcess),
      (initProcesses phase config scans getpid is processes).Yields (fun _ => True)
        fun reason => (∃ i, reason = .processInit phase i) ∧ ¬ 0 < getpid := by
    intro is
    induction is with
    | nil => exact fun _ => .pure trivial
    | cons i is ih => exact fun _ => .orStop_bind (fun _ _ => ih _) fun _ => ⟨⟨i, rfl⟩, hpid⟩
  exact .check_bind (fun _ => .seq (hinit _ _) fun _ => .pure trivial)
    fun hmany => absurd (monitoredProcessCount_mem h).2 hmany

/-- So does a reload. -/
theorem reload_stops (calls : ReloadCalls) (s : MainState) :
    (reload calls s).Yields (fun _ => True)
      fun reason => (∃ i, reason = .processInit .reload i) ∧ ¬ 0 < calls.getpid := by
  unfold reload
  obtain ⟨-, step, hstep⟩ | ⟨hacc, step, network, time, hstep, -⟩ := attemptReload_cases calls s
  · rw [hstep]
    exact .emit_bind (.pure trivial)
  · rw [hstep]
    cases step with
    | some step => exact .emit_bind (.pure trivial)
    | none => exact .emit_bind (.seq (setUpProcesses_stops (usable_reloadConfig hacc) _) fun _ =>
        .emit_bind (.pure trivial))

theorem reloadIfRequested_stops {reason : Exit}
    (h : (reloadIfRequested c.2.reload c.1).result = .error reason) : Blames before c reason := by
  cases hreload : c.2.reload with
  | none =>
    rw [hreload] at h
    cases h
  | some calls =>
    rw [hreload] at h
    obtain ⟨⟨i, rfl⟩, hpid⟩ := (reload_stops calls c.1).error reason h
    exact ⟨calls, hreload, hpid⟩

/-- What the system part of a round fails for is what its turn is blamed for. -/
theorem RoundCalls.Fails.blames {reason : Exit} (h : c.2.round.Fails before reason) :
    Blames before c reason := by
  cases reason <;> first | exact h | exact h.elim

/-- **A turn that stops** has come across what its reason stands for. -/
theorem iteration_blames (hs₀ : HoldsPoint c.1 c.1.config before) (hop : Operating c.1)
    (hreset : c.1.networkBaselineReset = false) {reason : Exit}
    (h : (iteration format c.1 c.2).result = .error reason) : Blames before c reason := by
  cases hreload : (reloadIfRequested c.2.reload c.1).result with
  | error reason' =>
    rw [iteration, bind_of_error hreload] at h
    obtain rfl := Except.error.inj h
    exact reloadIfRequested_stops hreload
  | ok s =>
    obtain ⟨hholds, -⟩ := heldPoint_of_reload hs₀ hreset hreload
    have hops : Operating s := reloadIfRequested_operating hop hreload
    rw [iteration, bind_of_ok hreload] at h
    cases hloop : (monitorProcesses c.2.round s).result with
    | error reason' =>
      rw [round, bind_of_error hloop] at h
      obtain rfl := Except.error.inj h
      obtain ⟨i, -, failure, rfl, hfailure⟩ :=
        run_monitorProcess_stops (nodup_processIndices _) hloop
      refine ⟨s, hreload, ?_⟩
      by_cases hfit : MessagesFit (c.2.round.processes i) (s.processes i)
      · exact .inl (monitorProcessOnce_fails hfit failure hfailure)
      · exact .inr hfit
    | ok s₂ =>
      rw [round, bind_of_ok hloop] at h
      obtain ⟨-, -, heq⟩ := run_monitorProcess_ok (nodup_processIndices _) hloop
      have hholds₂ : HoldsClock s₂ before := by
        rw [heq]
        exact hholds.holdsClock
      have hconfig : s₂.config = s.config := by rw [heq]
      have hsystem : ((monitorSystem format c.2.round s₂).rename (Event.mk .system) id).Yields
          (fun _ => True) (c.2.round.Fails before) :=
        .rename (monitorSystem_stops hholds₂ (hconfig ▸ hops.usable.networkInterfaceCount_le))
      have hround : (do
          let r ← (monitorSystem format c.2.round s₂).rename (Event.mk .system) id
          let s := forgetUnavailable (afterOutput format r.2)
          pure { s with
            previousCpu := r.1
            previousNetwork := s.currentNetwork
            previousNetworkTime := s.currentNetworkTime } :
          Traced Event Exit MainState).Yields (fun _ => True) (c.2.round.Fails before) :=
        .seq hsystem fun _ => .pure trivial
      exact (hround.error reason h).blames

/-! ### Runs -/

/-- **A start that stops** has come across what its reason stands for. -/
theorem start_stops (calls : StartCalls) :
    (start calls).Yields (fun _ => True) calls.Fails := by
  have husable := usable_startConfig calls.memory.config calls.configFile
  refine .bind (Q := fun s => s.currentLogMaxSize = loggerDefaultMaxSizeBytes) ?_ fun s hs => ?_
  · refine ⟨fun s h => ?_, fun reason h => ?_⟩
    · rw [setUpProcesses_ok h]
      rfl
    · obtain ⟨⟨i, rfl⟩, hpid⟩ := (setUpProcesses_stops husable _).error reason h
      exact hpid
  refine .check_bind (fun _ => ?_) eq_false_of_ne_true
  refine .orStop_bind (fun previousCpu _ => ?_) id
  refine .orStop_bind (fun previousNetwork _ => ?_) fun hnone =>
    networkUnreadable_of_none husable.networkInterfaceCount_le hnone
  refine .orStop_bind (fun previousNetworkTime _ => ?_) id
  rw [hs]
  refine .check_bind (fun _ => .emit_bind ?_) eq_false_of_ne_true
  exact .check_bind (fun _ => .emit_bind (.pure trivial)) eq_false_of_ne_true

/-- **A run that stops** has come across what its reason stands for: the start has, or one of its
turns. -/
theorem daemon_stops (format : OutputFormat) (calls : StartCalls) (its : List Iteration)
    (reason : Exit) (h : (daemon format calls its).result = .error reason) :
    ((start calls).result = .error reason ∧ calls.Fails reason) ∨
      ∃ s₀, (start calls).result = .ok s₀ ∧ ∃ c ∈ taken (iteration format) s₀ its,
        (iteration format c.1 c.2).result = .error reason ∧
        ∃ before, PointBefore format calls s₀ its c before ∧ Blames before c reason := by
  cases hs₀ : (start calls).result with
  | error reason' =>
    rw [daemon, bind_of_error hs₀] at h
    obtain rfl := Except.error.inj h
    exact .inl ⟨rfl, (start_stops calls).error _ hs₀⟩
  | ok s₀ =>
    rw [daemon, bind_of_ok hs₀] at h
    obtain ⟨c, hc, hstops⟩ := exists_taken_of_error h
    obtain ⟨before, hbefore, hholds, hreset⟩ := heldPoint_of_taken hs₀ hc
    have hop := taken_operating (start_operating hs₀) hc
    exact .inr ⟨s₀, rfl, c, hc, hstops, before, hbefore,
      iteration_blames hholds hop hreset hstops⟩

/-- A start on a system on which all is well. -/
structure StartCalls.Succeed (calls : StartCalls) : Prop where
  /-- The daemon has a PID. -/
  getpid : 0 < calls.getpid
  /-- The signals can be handled. -/
  sigactions : calls.sigactions = true
  /-- `/proc/stat` can be read. -/
  procStat : (readCpuTimes calls.procStat).isSome
  /-- `/proc/net/dev` can be read. -/
  procNetDev : ¬ NetworkUnreadable calls.procNetDev
  /-- So can the clock. -/
  clock : calls.clock.isSome
  /-- The log directory of the configuration can be made. -/
  logger : ¬ calls.Fails .logger
  /-- The first record is written. -/
  startupLog : calls.startupLogWritten = true

/-- The names and the states that `/proc` shows are short, as those of Linux are. -/
def ProcessCalls.ShortNames (calls : ProcessCalls) : Prop :=
  ∀ pid info, readProcessInfo calls.status pid = some info →
    info.name.bytes.length + info.state.bytes.length < 168

/-- A turn of the loop on a system on which all is well; a reload may fail. -/
structure Iteration.Succeed (it : Iteration) : Prop where
  /-- The daemon has a PID. -/
  getpid : it.PidPositive
  /-- The records about processes are written, and the clock can be read. -/
  processes : ∀ i, (it.round.processes i).Succeed
  /-- The processes have short names. -/
  shortNames : ∀ i, (it.round.processes i).ShortNames
  /-- The files of the system can be read, and the records about it are written. -/
  system : ∀ before reason, reason ≠ .networkSpeed → ¬ it.round.Fails before reason

/-- The clock advances from one sampling point to the next. -/
def ClockAdvances (calls : StartCalls) (its : List Iteration) : Prop :=
  (calls.clock :: its.map fun it => it.round.clock).IsChain fun time time' =>
    ¬ ClockStands time time'

/-- Short names fit every text. -/
theorem ProcessCalls.ShortNames.messagesFit {calls : ProcessCalls} (h : calls.ShortNames)
    (p : MonitoredProcess) : MessagesFit calls p := by
  have hpid := length_decimalInt_pid_le (pidInRound calls p)
  refine ⟨fun info hinfo => ?_, fun info hinfo _ => ?_⟩
  · have := h _ info hinfo
    omega
  · have := h _ info hinfo
    have hmemory := length_decimal_le (k := 20) (by decide)
      (show info.residentMemoryKb.toNat < 10 ^ 20 from
        lt_trans info.residentMemoryKb.toNat_lt (by norm_num))
    omega

/-- So are those of a `/proc` whose processes all have short ones. -/
theorem shortNames_quietProcess {processes : List (Int32 × Bytes)}
    (h : ∀ e ∈ processes, ∀ info ∈ readProcessInfo (quietProc processes) e.1,
      info.name.bytes.length + info.state.bytes.length < 168) :
    (quietProcess (quietProc processes)).ShortNames := by
  intro pid info hinfo
  have hread : readProcessInfo (quietProc processes) pid = some info := hinfo
  by_cases hpid : pid ∈ processes.map Prod.fst
  · obtain ⟨e, he, rfl⟩ := List.mem_map.mp hpid
    exact h e he info hread
  · have hgone : (quietProc processes).status pid = none := by
      show (processes.lookup pid).map quietStatus = none
      rw [List.lookup_eq_none_iff.mpr fun e he => by
        simpa using fun heq : pid = e.1 => hpid (heq ▸ List.mem_map_of_mem he)]
      rfl
    simp [readProcessInfo, hgone] at hread

theorem StartCalls.Succeed.not_fails {calls : StartCalls} (h : calls.Succeed) (reason : Exit) :
    ¬ calls.Fails reason := by
  intro hfails
  cases reason with
  | processInit phase i =>
    cases phase with
    | startup => exact hfails h.getpid
    | reload => exact hfails
  | sigaction => exact absurd (h.sigactions.symm.trans hfails) (by decide)
  | initialCpuTimes =>
    have hread := h.procStat
    rw [show readCpuTimes calls.procStat = none from hfails] at hread
    cases hread
  | initialNetwork => exact h.procNetDev hfails
  | initialClock =>
    have hclock := h.clock
    rw [show calls.clock = none from hfails] at hclock
    cases hclock
  | logger => exact h.logger hfails
  | startupLog => exact absurd (h.startupLog.symm.trans hfails) (by decide)
  | _ => exact hfails

theorem ProcessCalls.Succeed.not_fails {calls : ProcessCalls} (h : calls.Succeed)
    (failure : MonitorFailure) : ¬ calls.Fails failure := by
  intro hfails
  cases failure with
  | memoryLogWrite => exact absurd (h.memoryLog.symm.trans hfails) (by decide)
  | cpuLogWrite => exact absurd (h.cpuLog.symm.trans hfails) (by decide)
  | availabilityLogWrite => exact absurd (h.availabilityLog.symm.trans hfails) (by decide)
  | clock => exact h.clock hfails
  | _ => exact hfails

/-- A turn in which all is well is to blame for a clock that stands, at most. -/
theorem Iteration.Succeed.of_blames {reason : Exit} (h : c.2.Succeed)
    (hblames : Blames before c reason) : ClockStands before.clock c.2.round.clock := by
  by_cases hspeed : reason = .networkSpeed
  · subst hspeed
    exact hblames
  refine absurd ?_ (h.system before reason hspeed)
  cases reason with
  | processInit phase i =>
    cases phase with
    | startup => exact hblames
    | reload =>
      obtain ⟨calls, hreload, hpid⟩ := hblames
      exact absurd (h.getpid calls hreload) hpid
  | process i failure =>
    obtain ⟨s, -, hfails | hlong⟩ := hblames
    · exact absurd hfails ((h.processes i).not_fails failure)
    · exact absurd ((h.shortNames i).messagesFit _) hlong
  | _ => exact hblames

/-- The clock advances to every turn that is taken. -/
theorem ClockAdvances.of_pointBefore {calls : StartCalls} (h : ClockAdvances calls its)
    (hbefore : PointBefore format calls s₀ its c before) :
    ¬ ClockStands before.clock c.2.round.clock := by
  have hbegins := isPrefix_map_snd_taken (iteration format) s₀ its
  cases hbefore with
  | start hfirst =>
    obtain ⟨rest, hits⟩ := ((hfirst.map Prod.snd).trans hbegins)
    rw [ClockAdvances, ← hits] at h
    exact (List.isChain_cons_cons.mp h).1
  | round b hadjacent =>
    obtain ⟨front, rest, hits⟩ := (hadjacent.map Prod.snd).trans hbegins.isInfix
    rw [ClockAdvances, ← hits] at h
    simp only [List.map_append, List.map_cons, List.append_assoc] at h
    rw [← List.cons_append] at h
    exact (List.isChain_cons_cons.mp (List.isChain_append.mp h).2.1).1

/-- **A run goes on** on a system on which all is well, for as long as its clock advances and the
processes have short names: whatever the configuration file says at the start and at every reload,
whether reloads succeed or not, and whatever else the processes do. -/
theorem daemon_goesOn (format : OutputFormat) (calls : StartCalls) (its : List Iteration)
    (hstart : calls.Succeed) (hits : ∀ it ∈ its, it.Succeed) (hclock : ClockAdvances calls its) :
    ∃ s, (daemon format calls its).result = .ok s := by
  cases hresult : (daemon format calls its).result with
  | ok s => exact ⟨s, rfl⟩
  | error reason =>
    obtain ⟨-, hfails⟩ | ⟨s₀, -, c, hc, -, before, hbefore, hblames⟩ :=
      daemon_stops format calls its reason hresult
    · exact absurd hfails (hstart.not_fails reason)
    · have hmem : c.2 ∈ its :=
        (isPrefix_map_snd_taken (iteration format) s₀ its).subset (List.mem_map_of_mem hc)
      exact absurd ((hits _ hmem).of_blames hblames) (hclock.of_pointBefore hbefore)

/-- A quiet turn is one in which all is well. -/
theorem succeed_quiet {reload : Option ReloadCalls} {proc : ProcFs} (seconds : ℤ)
    (hpid : Iteration.PidPositive ⟨reload, quietRound proc seconds⟩)
    (hshort : (quietProcess proc).ShortNames) :
    (⟨reload, quietRound proc seconds⟩ : Iteration).Succeed where
  getpid := hpid
  processes _ := ⟨rfl, rfl, rfl, nofun⟩
  shortNames _ := hshort
  system before reason hne h := by
    cases reason with
    | cpuTimes => exact absurd (show readCpuTimes (some quietStat) = none from h) (by decide +kernel)
    | network => exact absurd (h quietNetDev rfl) (by decide +kernel)
    | networkSpeed => exact hne rfl
    | memory =>
      exact absurd (show getMemoryInfo (some (ascii "MemTotal: 4 kB\nMemAvailable: 2 kB\n")) = none
        from h) (by decide +kernel)
    | uptime =>
      exact absurd (show getSystemUptime (some (ascii "1.0 1.0\n")) = none from h)
        (by decide +kernel)
    | loadAverage =>
      exact absurd (show getLoadAverage (some (ascii "0.0 0.0 0.0 1/1 1\n")) = none from h)
        (by decide +kernel)
    | _ => cases h

/-- Two quiet rounds, a second apart: in front of the first a new list of targets is applied, and
in the second one of the processes is gone. -/
theorem daemon_goesOn_quiet :
    ∃ s, (daemon .json (quietStart .zero (ascii "process_names=a,b\n") twoProcesses)
      [⟨some (quietReload (ascii "process_names=b,a\n") twoProcesses), quietRound twoProcesses 1⟩,
        ⟨none, quietRound secondProcess 2⟩]).result = .ok s := by
  refine daemon_goesOn .json _ _ ?_ ?_ ?_
  · refine ⟨by decide, rfl, by decide +kernel,
      fun h => absurd (h quietNetDev rfl) (by decide +kernel), rfl, fun h => absurd
        (show (loggerInit (mkdirCalls fun _ => .created)
          (startConfig .zero (some ⟨ascii "process_names=a,b\n", false, true⟩)).logFile.cstr
          (startConfig .zero (some ⟨ascii "process_names=a,b\n", false, true⟩)).logMaxSize
          loggerDefaultMaxSizeBytes 0).succeeded = false from h) (by decide +kernel), rfl⟩
  · intro it hit
    simp only [List.mem_cons, List.not_mem_nil, or_false] at hit
    obtain rfl | rfl := hit
    · refine succeed_quiet 1 (fun reload h => ?_) (shortNames_quietProcess (by decide +kernel))
      obtain rfl := Option.some.inj h
      decide
    · exact succeed_quiet 2 nofun (shortNames_quietProcess (by decide +kernel))
  · have hadvance : ∀ a b : ℤ, a < b → ¬ ClockStands (some ⟨a, 0⟩) (some ⟨b, 0⟩) := by
      rintro a b hab ⟨time, time', ht, ht', hle⟩
      obtain rfl := Option.some.inj ht
      obtain rfl := Option.some.inj ht'
      simp only [calculateElapsedSeconds, sub_self, Int.cast_zero, zero_div, add_zero] at hle
      have : (0 : ℚ) < (b - a : ℤ) := by exact_mod_cast sub_pos.mpr hab
      linarith
    exact .cons_cons (hadvance 0 1 (by decide))
      (.cons_cons (hadvance 1 2 (by decide)) (.singleton _))

/-- A round without `/proc/meminfo` stops the run, and it is to blame for that. -/
theorem daemon_stops_memory : ∃ s₀ c before,
    PointBefore .json receivingStart s₀
      [⟨none, { quietRound (quietProc []) 1 with procMeminfo := none }⟩] c before ∧
    Blames before c .memory := by
  have hresult : (daemon .json receivingStart
      [⟨none, { quietRound (quietProc []) 1 with procMeminfo := none }⟩]).result.map (fun _ => ()) =
      .error .memory := by decide +kernel
  cases hdaemon : (daemon .json receivingStart
      [⟨none, { quietRound (quietProc []) 1 with procMeminfo := none }⟩]).result with
  | ok s =>
    rw [hdaemon] at hresult
    cases hresult
  | error reason =>
    rw [hdaemon] at hresult
    obtain rfl := Except.error.inj hresult
    obtain ⟨-, hfails⟩ | ⟨s₀, -, c, -, -, before, hbefore, hblames⟩ :=
      daemon_stops .json receivingStart _ .memory hdaemon
    · exact hfails.elim
    · exact ⟨s₀, c, before, hbefore, hblames⟩

end EdgeSentinel.Monitor
