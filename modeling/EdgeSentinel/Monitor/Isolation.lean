import EdgeSentinel.Monitor.Completion
import EdgeSentinel.Monitor.Tracking
import Mathlib.Data.List.Find

/-!
# Targets do not influence each other

The targets of a list share the loop that monitors them, the pointer `active_process` and
the clean-up behind the output. What is left of one target must not depend on the others.

## The model

* `TargetStep` — what a run does for one target at a time: it is set up, or it is monitored
  in a round. `history` lists these steps, as they are found in the run.
* `TargetStep.input` — what the step is given: the thresholds, and what the operating system
  answers to the questions asked for this target. Nothing else of the configuration or of
  `/proc` is part of it.
* `TargetStep.SameAs` — two steps do the same: the same records and notifications, and the
  same state at the end of the round. Two histories are the same if they are as long as each
  other, and their steps do the same one by one.
* `SameSystem` — two runs on the same system, of the same target: whatever is not asked for a
  process is answered alike, and no record of the log is lost.

## What is proved

* `monitorProcessOnce_lockstep` — a call of `monitor_process_once` goes by the input and the
  record of the target only.
* `follows_history` — in every run the record of a target goes through the calls made for
  it, and the clean-up.
* `endsAlike_history_iff` — what the histories of a target in two such runs owe to the other
  targets: how many steps there are, and how they end.
* `sameSequence_iff` — two runs on the same system in which a target is given the same do the
  same for it **if and only if**, in each turn, what is read of the targets in front of it fits
  the texts about them in both or in neither; and so does what is read of all the targets; and
  if the target has a PID that cannot be read, it is the last of the list in both or in neither.
-/

namespace EdgeSentinel.Monitor

open CLib Config Trace Trace.Traced

/-! ### What a target is given -/

/-- The settings that a target goes by. -/
structure TargetSettings where
  /-- Alerts are sent. -/
  notificationEnabled : Bool
  /-- A threshold of the CPU usage. -/
  processCpuWarningThreshold : Double
  /-- The other one. -/
  processCpuCriticalThreshold : Double
  /-- A threshold of the memory. -/
  processMemoryWarningThresholdMib : Double
  /-- The other one. -/
  processMemoryCriticalThresholdMib : Double
  deriving DecidableEq, Repr

/-- The settings of a configuration. -/
def targetSettings (config : AppConfig) : TargetSettings where
  notificationEnabled := config.notificationEnabled = 1
  processCpuWarningThreshold := config.processCpuWarningThreshold
  processCpuCriticalThreshold := config.processCpuCriticalThreshold
  processMemoryWarningThresholdMib := config.processMemoryWarningThresholdMib
  processMemoryCriticalThresholdMib := config.processMemoryCriticalThresholdMib

/-- What the operating system answers to the questions asked for a process in a round. -/
structure Answers where
  /-- The PID that is found for its name, if it is looked up. -/
  found : Option Int32
  /-- What its PID shows. -/
  info : Option ProcessInfo
  /-- Its CPU times, if it is available. -/
  cpuTimes : Option ProcessCpuTimes
  /-- `clock_gettime(CLOCK_MONOTONIC)`. -/
  clock : Option Timespec
  /-- `sysconf(_SC_CLK_TCK)`. -/
  ticksPerSecond : ℤ
  /-- The memory log record is written, if there is one. -/
  memoryLogWritten : Bool
  /-- The CPU log record is written, if there is one. -/
  cpuLogWritten : Bool
  /-- The availability log record is written, if there is one. -/
  availabilityLogWritten : Bool
  /-- `time(NULL)` for a memory alert. -/
  memoryAlertTime : ℤ
  /-- `time(NULL)` for a CPU alert. -/
  cpuAlertTime : ℤ
  deriving DecidableEq, Repr

/-- The answers in a round: of all of `/proc`, only the target itself. -/
def answers (calls : ProcessCalls) (p : MonitoredProcess) : Answers where
  found :=
    if p.targetName.bytes ≠ [] ∧ p.currentPid = 0
    then findProcessByName calls.scan p.targetName.bytes else none
  info := readProcessInfo calls.status (pidInRound calls p)
  cpuTimes :=
    if (readProcessInfo calls.status (pidInRound calls p)).isSome
    then readProcessCpuTimes calls.stat (pidInRound calls p) else none
  clock := calls.clock
  ticksPerSecond := calls.ticksPerSecond
  memoryLogWritten := calls.memoryLogWritten
  cpuLogWritten := calls.cpuLogWritten
  availabilityLogWritten := calls.availabilityLogWritten
  memoryAlertTime := calls.memoryAlertTime
  cpuAlertTime := calls.cpuAlertTime

/-! ### What is seen of a target -/

/-- The state of a target. `configured_pid` is not part of it: it is only kept for the
messages. -/
def targetState (p : MonitoredProcess) : MonitoredProcess := { p with configuredPid := 0 }

/-- An action for a target: a log record without the name of the file it goes to, and an
attempt to notify without the command that receives it. -/
def targetAction : Action → Action
  | .logWrite call _ level message => .logWrite call [] level message
  | .notifierSend event _ => .notifierSend event []
  | .monitored p => .monitored (targetState p)
  | action => action

/-- What is compared of an action. -/
def comparedAction (a : Action) : Option Action := some (targetAction a)

/-! ### A call of `monitor_process_once` -/

section Lockstep

variable {config config' : AppConfig} {calls calls' : ProcessCalls} {p p' : MonitoredProcess}
  {ρ : Type} {E : ρ → Prop}

theorem sendAlertChangeNotification_lockstep (h : targetSettings config' = targetSettings config)
    (now : ℤ) (change : AlertChange) :
    Lockstep comparedAction (fun _ _ => True) E (sendAlertChangeNotification config now change)
      (sendAlertChangeNotification config' now change) := by
  have henabled : config'.notificationEnabled = 1 ↔ config.notificationEnabled = 1 := by
    simpa [targetSettings] using congrArg TargetSettings.notificationEnabled h
  refine .emit_bind rfl ?_
  simp only [ne_eq, henabled]
  split_ifs
  · exact .pure trivial
  · cases alertEventInit now change with
    | none => exact .pure trivial
    | some event => exact .both rfl rfl trivial rfl
  · exact .pure trivial

theorem writeLog_lockstep (call : LogCall) (level message : Bytes) (written : Bool)
    (failure : ρ) : Lockstep comparedAction (fun _ _ => True) E
      (writeLog config call level message written failure)
      (writeLog config' call level message written failure) :=
  .emit_bind rfl (.refl (R := fun _ _ => True) (fun _ => trivial) _)

/-- A level is watched alike, if a change of it is answered alike. -/
theorem watchLevel_lockstep_of {changed changed' : AlertLevel → Traced Action ρ PUnit}
    (h : ∀ previous, Lockstep comparedAction (fun _ _ => True) E (changed previous)
      (changed' previous)) (baseline : LevelBaseline) (level : AlertLevel) :
    Lockstep comparedAction (fun b b' => b' = b) E (watchLevel baseline level changed)
      (watchLevel baseline level changed') := by
  unfold watchLevel
  split_ifs
  · exact .bind (h _) fun _ _ _ => .pure rfl
  · exact .pure rfl
  · exact .pure rfl

/-- Two records of the same target. -/
def SameTarget (p p' : MonitoredProcess) : Prop := targetState p' = targetState p

theorem sameTarget_iff : SameTarget p p' ↔ ∃ pid, p' = { p with configuredPid := pid } := by
  constructor
  · intro h
    refine ⟨p'.configuredPid, ?_⟩
    have hp' : p' = { targetState p' with configuredPid := p'.configuredPid } := rfl
    rw [hp', h]
    rfl
  · rintro ⟨pid, rfl⟩
    rfl

/-- Nothing that is asked for a target depends on its `configured_pid`. -/
theorem answers_configuredPid (calls : ProcessCalls) (p : MonitoredProcess) (pid : Int32) :
    answers calls { p with configuredPid := pid } = answers calls p := rfl

/-- The PID in a round is the one that is found, or the one that was there. -/
theorem pidInRound_eq_found (calls : ProcessCalls) (p : MonitoredProcess) :
    pidInRound calls p = if p.targetName.bytes ≠ [] ∧ p.currentPid = 0
      then (answers calls p).found.getD 0 else p.currentPid := by
  unfold pidInRound answers
  split_ifs <;> rfl

theorem pidInRound_same (h : answers calls' p = answers calls p) :
    pidInRound calls' p = pidInRound calls p := by
  rw [pidInRound_eq_found, pidInRound_eq_found, h]

/-- A target is looked up alike. -/
theorem lookUpProcess_lockstep {E : MonitorFailure → Prop} (pid : Int32)
    (h : answers calls' p = answers calls p) :
    Lockstep comparedAction (fun q q' => q' = { q with configuredPid := pid } ∧
      q.currentPid = pidInRound calls p) E
      (lookUpProcess calls p) (lookUpProcess calls' { p with configuredPid := pid }) := by
  have hfound := congrArg Answers.found h
  unfold answers at hfound
  dsimp only at hfound
  unfold lookUpProcess pidInRound
  dsimp only
  split_ifs at hfound ⊢
  · rw [hfound]
    cases findProcessByName calls.scan p.targetName.bytes with
    | none => exact .pure ⟨rfl, by simp_all⟩
    | some found => exact .emit_bind rfl (.pure ⟨rfl, rfl⟩)
  · exact .pure ⟨rfl, rfl⟩

/-- The memory of a target is graded alike. -/
theorem gradeMemory_lockstep {E : MonitorFailure → Prop} (pid : Int32)
    (hsettings : targetSettings config' = targetSettings config)
    (h : answers calls' p = answers calls p) (q : MonitoredProcess) :
    Lockstep comparedAction (fun r r' => r' = { r with configuredPid := pid } ∧
      r.currentPid = q.currentPid ∧ r.available = q.available) E
      (gradeMemory config calls q) (gradeMemory config' calls' { q with configuredPid := pid }) := by
  have hwarning := congrArg TargetSettings.processMemoryWarningThresholdMib hsettings
  have hcritical := congrArg TargetSettings.processMemoryCriticalThresholdMib hsettings
  have hwritten := congrArg Answers.memoryLogWritten h
  have htime := congrArg Answers.memoryAlertTime h
  dsimp only [targetSettings, answers] at hwarning hcritical hwritten htime
  unfold gradeMemory
  rw [hwarning, hcritical, hwritten, htime]
  refine .check_bind Iff.rfl fun _ => .emit_bind rfl
    (.bind (watchLevel_lockstep_of (fun previous => ?_) _ _) ?_)
  · exact .check_bind Iff.rfl fun _ => .bind (writeLog_lockstep _ _ _ _ _) fun _ _ _ =>
      sendAlertChangeNotification_lockstep hsettings _ _
  · rintro baseline _ rfl
    exact .pure ⟨rfl, rfl, rfl⟩

/-- A target is read alike. -/
theorem readProcess_lockstep {E : MonitorFailure → Prop} (pid : Int32)
    (hsettings : targetSettings config' = targetSettings config)
    (h : answers calls' p = answers calls p) {q : MonitoredProcess}
    (hq : q.currentPid = pidInRound calls p) :
    Lockstep comparedAction (fun r r' => r' = { r with configuredPid := pid } ∧
      r.currentPid = q.currentPid ∧
      r.available = (readProcessInfo calls.status q.currentPid).isSome) E
      (readProcess config calls q) (readProcess config' calls' { q with configuredPid := pid }) := by
  have hinfo : readProcessInfo calls'.status q.currentPid =
      readProcessInfo calls.status q.currentPid := by
    have hinfo := congrArg Answers.info h
    dsimp only [answers] at hinfo
    rwa [pidInRound_same h, ← hq] at hinfo
  unfold readProcess
  dsimp only
  rw [hinfo]
  cases readProcessInfo calls.status q.currentPid with
  | none => exact .emit_bind rfl (.pure ⟨rfl, rfl, rfl⟩)
  | some info =>
    exact .emit_bind rfl (gradeMemory_lockstep pid hsettings h
      { q with info := info, available := true })

/-- The CPU usage of a target is graded alike. -/
theorem gradeProcessCpu_lockstep {E : MonitorFailure → Prop} (pid : Int32)
    (hsettings : targetSettings config' = targetSettings config)
    (h : answers calls' p = answers calls p) (q : MonitoredProcess) :
    Lockstep comparedAction (fun r r' => r' = { r with configuredPid := pid }) E
      (gradeProcessCpu config calls q)
      (gradeProcessCpu config' calls' { q with configuredPid := pid }) := by
  have hwarning := congrArg TargetSettings.processCpuWarningThreshold hsettings
  have hcritical := congrArg TargetSettings.processCpuCriticalThreshold hsettings
  have hwritten := congrArg Answers.cpuLogWritten h
  have htime := congrArg Answers.cpuAlertTime h
  dsimp only [targetSettings, answers] at hwarning hcritical hwritten htime
  unfold gradeProcessCpu
  rw [hwarning, hcritical, hwritten, htime]
  refine .emit_bind rfl (.bind (watchLevel_lockstep_of (fun previous => ?_) _ _) ?_)
  · exact .check_bind Iff.rfl fun _ => .bind (writeLog_lockstep _ _ _ _ _) fun _ _ _ =>
      sendAlertChangeNotification_lockstep hsettings _ _
  · rintro baseline _ rfl
    exact .pure rfl

/-- Two samples of a target are compared alike. -/
theorem compareCpuSamples_lockstep {E : MonitorFailure → Prop} (pid : Int32)
    (hsettings : targetSettings config' = targetSettings config)
    (h : answers calls' p = answers calls p) (times : ProcessCpuTimes) (time : Timespec)
    (q : MonitoredProcess) :
    Lockstep comparedAction (fun r r' => r' = { r with configuredPid := pid }) E
      (compareCpuSamples config calls times time q)
      (compareCpuSamples config' calls' times time { q with configuredPid := pid }) := by
  have hticks : calls'.ticksPerSecond = calls.ticksPerSecond :=
    congrArg Answers.ticksPerSecond h
  unfold compareCpuSamples
  dsimp only
  rw [hticks]
  split_ifs
  · exact .emit_bind rfl (gradeProcessCpu_lockstep pid hsettings h { q with cpuUsage := _ })
  · exact .emit_bind rfl (.pure rfl)
  · exact .pure rfl

/-- The CPU times of a target are sampled alike. -/
theorem monitorProcessCpu_lockstep {E : MonitorFailure → Prop} (pid : Int32)
    (hsettings : targetSettings config' = targetSettings config)
    (h : answers calls' p = answers calls p) {q : MonitoredProcess}
    (hq : q.currentPid = pidInRound calls p)
    (havail : q.available = (readProcessInfo calls.status (pidInRound calls p)).isSome) :
    Lockstep comparedAction (fun r r' => r' = { r with configuredPid := pid }) E
      (monitorProcessCpu config calls q)
      (monitorProcessCpu config' calls' { q with configuredPid := pid }) := by
  have hclock : calls'.clock = calls.clock := congrArg Answers.clock h
  unfold monitorProcessCpu
  dsimp only
  split_ifs with hc
  · have htimes : readProcessCpuTimes calls'.stat q.currentPid =
        readProcessCpuTimes calls.stat q.currentPid := by
      have hinfo := congrArg Answers.info h
      have htimes := congrArg Answers.cpuTimes h
      dsimp only [answers] at hinfo htimes
      rwa [hinfo, pidInRound_same h, ← havail, if_pos hc, if_pos hc, ← hq] at htimes
    unfold sampleProcessCpu
    dsimp only
    rw [htimes, hclock]
    cases readProcessCpuTimes calls.stat q.currentPid with
    | none => exact .emit_bind rfl (.pure rfl)
    | some times =>
      refine .orStop_bind fun time _ => .emit_bind rfl
        (.bind (compareCpuSamples_lockstep pid hsettings h times time q) ?_)
      rintro r _ rfl
      exact .pure rfl
  · exact .pure rfl

/-- The availability of a target is watched alike. -/
theorem watchAvailability_lockstep {E : MonitorFailure → Prop} (pid : Int32)
    (h : answers calls' p = answers calls p) (q : MonitoredProcess) :
    Lockstep comparedAction (fun r r' => r' = { r with configuredPid := pid }) E
      (watchAvailability config calls q)
      (watchAvailability config' calls' { q with configuredPid := pid }) := by
  have hwritten : calls'.availabilityLogWritten = calls.availabilityLogWritten :=
    congrArg Answers.availabilityLogWritten h
  unfold watchAvailability
  rw [hwritten]
  dsimp only
  split_ifs
  · exact .check_bind Iff.rfl fun _ => .bind (writeLog_lockstep _ _ _ _ _) fun _ _ _ => .pure rfl
  · exact .pure rfl
  · exact .pure rfl

/-- **A call of `monitor_process_once`** goes by the settings, the answers and the record of
the target only. -/
theorem monitorProcessOnce_lockstep {E : MonitorFailure → Prop} (hp : SameTarget p p')
    (hsettings : targetSettings config' = targetSettings config)
    (h : answers calls' p' = answers calls p) :
    Lockstep comparedAction SameTarget E (monitorProcessOnce config calls p)
      (monitorProcessOnce config' calls' p') := by
  obtain ⟨pid, rfl⟩ := sameTarget_iff.mp hp
  rw [answers_configuredPid] at h
  refine .bind (lookUpProcess_lockstep pid h) ?_
  rintro p₁ _ ⟨rfl, hpid⟩
  refine .bind (readProcess_lockstep pid hsettings h hpid) ?_
  rintro p₂ _ ⟨rfl, hpid₂, havail⟩
  rw [hpid] at hpid₂ havail
  refine .bind (monitorProcessCpu_lockstep (q := { p₂ with cpuUsageValid := false }) pid hsettings
    h hpid₂ havail) ?_
  rintro p₃ _ rfl
  refine .bind (watchAvailability_lockstep pid h p₃) ?_
  rintro p₄ _ rfl
  exact .emit_bind rfl (.pure rfl)

end Lockstep

/-! ### The steps of a run for a target -/

/-- A call of `monitor_process_once` for a target in a run. -/
structure TargetRound where
  /-- The configuration in effect. -/
  config : AppConfig
  /-- What the operating system answers. -/
  calls : ProcessCalls
  /-- The record before the call. -/
  before : MonitoredProcess
  /-- The target is the last one of the list. -/
  last : Bool
  /-- What is done for the target in the round. -/
  actions : List Action
  /-- Its record at the end of the round, if the round is completed. -/
  after : Option MonitoredProcess

/-- What a run does for a target at a time. -/
inductive TargetStep where
  /-- It is set up, with the PID that is found for its name. -/
  | setUp (found : Option Int32) (p : MonitoredProcess)
  /-- It is monitored. -/
  | round (r : TargetRound)

/-- What a step is given. -/
inductive TargetInput where
  /-- The PID that is found for the name. -/
  | setUp (found : Option Int32)
  /-- The settings, and what the operating system answers. -/
  | round (settings : TargetSettings) (answers : Answers)
  deriving DecidableEq, Repr

/-- What the step is given. -/
def TargetStep.input : TargetStep → TargetInput
  | .setUp found _ => .setUp found
  | .round r => .round (targetSettings r.config) (answers r.calls r.before)

/-- Two steps do the same: the same log records, notifications and other actions, and the same
state at the end of the round, or neither of the rounds is completed. -/
def TargetStep.SameAs : TargetStep → TargetStep → Prop
  | .setUp _ p, .setUp _ p' => SameTarget p p'
  | .round r, .round r' => r'.actions = r.actions ∧ (r'.after.isSome ↔ r.after.isSome) ∧
      ∀ p p', r.after = some p → r'.after = some p' → SameTarget p p'
  | _, _ => False

/-- Two steps end alike: both rounds are completed or neither is, and the clean-up treats the
target alike: it is the last one of the list in both or in neither, or it can be read, if it has
a PID. -/
def TargetStep.EndsAlike : TargetStep → TargetStep → Prop
  | .setUp _ _, .setUp _ _ => True
  | .round r, .round r' => (r'.after.isSome ↔ r.after.isSome) ∧
      (r.after.isSome → r.last = r'.last ∨ ReadableIfFound r.calls r.before)
  | _, _ => False

instance (calls : ProcessCalls) (p : MonitoredProcess) : Decidable (ReadableIfFound calls p) :=
  inferInstanceAs (Decidable (_ ∨ _))

instance : ∀ step step', Decidable (TargetStep.EndsAlike step step')
  | .round r, .round r' => inferInstanceAs (Decidable ((r'.after.isSome ↔ r.after.isSome) ∧
      (r.after.isSome → r.last = r'.last ∨ ReadableIfFound r.calls r.before)))
  | .setUp _ _, .setUp _ _ => inferInstanceAs (Decidable True)
  | .setUp _ _, .round _ => inferInstanceAs (Decidable False)
  | .round _, .setUp _ _ => inferInstanceAs (Decidable False)

/-- The place of a target in the list. -/
def targetIndex (name : Bytes) (s : MainState) : Option ProcessIndex :=
  (processIndices s.processCount).find? fun i => (s.processes i).targetName.bytes = name

/-- What is done for process `i`. -/
def ownAction (i : ProcessIndex) (e : Event) : Option Action :=
  if e.source = .process i then some (targetAction e.action) else none

/-- The step of a target that was just set up. -/
def setUpSteps (name : Bytes) (scans : ProcessIndex → ProcFs) (s : MainState) : List TargetStep :=
  match targetIndex name s with
  | none => []
  | some i => [.setUp (findProcessByName (scans i) name) (s.processes i)]

/-- The call for process `i` in a round that begins in `s`. -/
def targetRound (format : OutputFormat) (calls : RoundCalls) (s : MainState) (i : ProcessIndex) :
    TargetRound where
  config := s.config
  calls := calls.processes i
  before := s.processes i
  last := i.val + 1 = s.processCount
  actions := (round format calls s).shown (ownAction i)
  after := (round format calls s).result.toOption.map fun s' => s'.processes i

/-- The step of a target in a round that begins in `s`, if the loop gets to it. -/
def roundSteps (format : OutputFormat) (name : Bytes) (calls : RoundCalls) (s : MainState) :
    List TargetStep :=
  match targetIndex name s with
  | none => []
  | some i =>
    if i ∈ (taken (monitorProcess calls) s (processIndices s.processCount)).map Prod.snd
    then [.round (targetRound format calls s i)] else []

/-- The steps of a target in a turn of the loop. -/
def turnSteps (format : OutputFormat) (name : Bytes) (s : MainState) (it : Iteration) :
    List TargetStep :=
  match (reloadIfRequested it.reload s).result with
  | .error _ => []
  | .ok s₁ =>
    (match it.reload with
      | some calls =>
        if (attemptReload calls s).1 = none then setUpSteps name calls.scans s₁ else []
      | none => []) ++ roundSteps format name it.round s₁

/-- The steps of a target in a run, from the start. -/
def history (format : OutputFormat) (name : Bytes) (calls : StartCalls) (s₀ : MainState)
    (its : List Iteration) : List TargetStep :=
  setUpSteps name calls.scans s₀ ++
    (taken (iteration format) s₀ its).flatMap fun c => turnSteps format name c.1 c.2

/-! ### The record of a target -/

/-- The record of a target that was just set up. -/
def targetRecord (name : Bytes) (pid : Int32) (found : Option Int32) : MonitoredProcess :=
  .fresh (.snprintf _ name) pid (found.getD 0)

/-- The steps go from record to record: through the calls of `monitor_process_once`, and the
clean-up, which forgets the PID of the last target only. -/
inductive Follows (name : Bytes) : Option MonitoredProcess → List TargetStep → Prop
  /-- The end of the run. -/
  | nil (p : Option MonitoredProcess) : Follows name p []
  /-- The target is set up, whatever was there. -/
  | setUp (p : Option MonitoredProcess) (pid : Int32) (found : Option Int32)
      (steps : List TargetStep) (h : Follows name (some (targetRecord name pid found)) steps) :
      Follows name p (.setUp found (targetRecord name pid found) :: steps)
  /-- It is monitored. -/
  | round (r : TargetRound) (steps : List TargetStep)
      (hactions : r.actions = (monitorProcessOnce r.config r.calls r.before).shown comparedAction)
      (hafter : ∀ p, r.after = some p → ∃ q,
        (monitorProcessOnce r.config r.calls r.before).result = .ok q ∧ p = forgetIf r.last q)
      (h : Follows name r.after steps) : Follows name (some r.before) (.round r :: steps)

variable {format : OutputFormat} {name : Bytes} {s s' s₀ : MainState}

/-- The record of the target, if it is in the list. -/
def IsRecord (name : Bytes) (s : MainState) (p : Option MonitoredProcess) : Prop :=
  ∀ i, targetIndex name s = some i → p = some (s.processes i)

theorem targetIndex_some {i : ProcessIndex} (h : targetIndex name s = some i) :
    i.val < s.processCount ∧ (s.processes i).targetName.bytes = name := by
  refine ⟨mem_processIndices.mp (List.mem_of_find?_eq_some h), ?_⟩
  simpa using List.find?_some h

theorem targetIndex_congr (hcount : s'.processCount = s.processCount)
    (hnames : ∀ i, i.val < s.processCount →
      (s'.processes i).targetName = (s.processes i).targetName) :
    targetIndex name s' = targetIndex name s := by
  unfold targetIndex
  rw [hcount]
  exact List.find?_congr fun i hi => by rw [hnames i (mem_processIndices.mp hi)]

/-- A target that was just set up. -/
theorem follows_setUpSteps {config : AppConfig} {scans : ProcessIndex → ProcFs} {getpid : Int32}
    {steps : List TargetStep} (hname : name ≠ []) (husable : Usable config)
    (hprocesses : s'.processes = (setUp config scans getpid s).processes)
    (hcount : s'.processCount = monitoredProcessCount config)
    (hrest : ∀ p, IsRecord name s' p → Follows name p steps) (p : Option MonitoredProcess) :
    Follows name p (setUpSteps name scans s' ++ steps) := by
  unfold setUpSteps
  cases hindex : targetIndex name s' with
  | none => exact hrest p fun i hi => by rw [hindex] at hi; cases hi
  | some i =>
    obtain ⟨hi, hiname⟩ := targetIndex_some hindex
    rw [hcount] at hi
    have hfresh : s'.processes i = freshProcess config scans getpid i := by
      rw [hprocesses]
      exact if_pos hi
    have htarget : targetProcessName config i = name := by
      have hbytes : (freshProcess config scans getpid i).targetName.bytes =
          targetProcessName config i := targetName_freshProcess husable hi
      rw [← hbytes, ← hfresh, hiname]
    have hrecord : s'.processes i =
        targetRecord name config.processPid.toInt32 (findProcessByName (scans i) name) := by
      rw [hfresh, freshProcess, initialProcessPid, htarget, if_pos hname]
      rfl
    dsimp only
    rw [hrecord]
    refine .setUp p _ _ _ (hrest _ fun j hj => ?_)
    rw [hindex] at hj
    obtain rfl := Option.some.inj hj
    rw [hrecord]

theorem ownAction_eq (i : ProcessIndex) : ownAction i = ofProcess i comparedAction := rfl

/-- A round: the target is monitored once, if the loop gets to it, and the clean-up sees it
if it is the last one. -/
theorem follows_roundSteps {calls : RoundCalls} {steps : List TargetStep} (hname : name ≠ [])
    (hs : Operating s) (hstop : ∀ r, (round format calls s).result = .error r → steps = [])
    (hrest : ∀ s', (round format calls s).result = .ok s' → ∀ p, IsRecord name s' p →
      Follows name p steps) {p : Option MonitoredProcess} (hp : IsRecord name s p) :
    Follows name p (roundSteps format name calls s ++ steps) := by
  -- the steps behind the round, from the record it leaves
  have hbehind : ∀ q, (∀ s', (round format calls s).result = .ok s' → IsRecord name s' q) →
      Follows name q steps := by
    intro q hq
    rcases hround : (round format calls s).result with r | s'
    · rw [hstop r hround]
      exact .nil q
    · exact hrest s' hround q (hq s' hround)
  have hindices : ∀ s', (round format calls s).result = .ok s' →
      targetIndex name s' = targetIndex name s := by
    intro s' hround
    have hafter := round_ok hs.one_le hs.count_le hround
    refine targetIndex_congr hafter.processCount fun i hi => ?_
    obtain ⟨q, hq, heq⟩ := hafter.monitored i hi
    rw [heq, targetName_forgetIf, (monitorProcessOnce_ok hq).targetName]
  unfold roundSteps
  cases hindex : targetIndex name s with
  | none =>
    refine hbehind p fun s' hround i hi => ?_
    rw [hindices s' hround, hindex] at hi
    cases hi
  | some i =>
    obtain ⟨hi, hiname⟩ := targetIndex_some hindex
    obtain rfl := hp i hindex
    dsimp only
    split_ifs with htaken
    · refine .round (targetRound format calls s i) steps ?_ ?_ ?_
      · dsimp only [targetRound]
        rw [ownAction_eq, shown_round, monitorProcesses,
          shown_monitorProcesses (nodup_processIndices _), if_pos htaken]
      · intro p' hp'
        dsimp only [targetRound] at hp' ⊢
        rcases hround : (round format calls s).result with r | s'
        · rw [hround] at hp'
          cases hp'
        · rw [hround] at hp'
          obtain rfl := Option.some.inj hp'
          obtain ⟨q, hq, heq⟩ := (round_ok hs.one_le hs.count_le hround).monitored i hi
          refine ⟨q, hq, heq.trans ?_⟩
          have hset : s.config.processName.cstr ≠ [] :=
            processName_ne_nil hs.usable (hs.names i hi ▸ hiname ▸ hname)
          have hlast : i.val = s.processCount - 1 ↔ i.val + 1 = s.processCount := by omega
          simp only [forgetIf, hset, hlast, ne_eq, not_false_eq_true, true_and, decide_eq_true_eq]
      · refine hbehind _ fun s' hround j hj => ?_
        rw [hindices s' hround, hindex] at hj
        obtain rfl := Option.some.inj hj
        rw [targetRound, hround]
        rfl
    · -- the loop stopped before it got to the target
      refine hbehind _ fun s' hround => ?_
      obtain ⟨s₁, hs₁, -⟩ := result_bind_ok.mp hround
      rw [map_snd_taken_of_ok hs₁] at htaken
      exact absurd (mem_processIndices.mpr hi) htaken

/-- A turn of the loop. -/
theorem follows_turnSteps {it : Iteration} {steps : List TargetStep} (hname : name ≠ [])
    (hs : Operating s) (hstop : ∀ r, (iteration format s it).result = .error r → steps = [])
    (hrest : ∀ s', (iteration format s it).result = .ok s' → ∀ p, IsRecord name s' p →
      Follows name p steps) {p : Option MonitoredProcess} (hp : IsRecord name s p) :
    Follows name p (turnSteps format name s it ++ steps) := by
  unfold turnSteps
  rcases hs₁ : (reloadIfRequested it.reload s).result with r | s₁
  · rw [hstop r (by rw [iteration, bind_of_error hs₁])]
    exact .nil p
  · have hiteration : (iteration format s it).result = (round format it.round s₁).result := by
      rw [iteration, bind_of_ok hs₁]
    rw [hiteration] at hstop hrest
    have hround : ∀ p, IsRecord name s₁ p →
        Follows name p (roundSteps format name it.round s₁ ++ steps) := fun p =>
      follows_roundSteps hname (reloadIfRequested_operating hs hs₁) hstop hrest
    dsimp only
    rw [List.append_assoc]
    cases hreload : it.reload with
    | none =>
      rw [hreload] at hs₁
      obtain rfl := Except.ok.inj hs₁
      exact hround p hp
    | some calls =>
      rw [hreload] at hs₁
      dsimp only
      obtain ⟨step, hstep, -, hprocesses, hcount⟩ | ⟨hacc, s₂, hstep, hconfig, rfl⟩ := reload_ok hs₁
      · rw [hstep, if_neg (by simp)]
        refine hround p fun i hi => ?_
        rw [targetIndex_congr hcount fun j _ => by rw [hprocesses]] at hi
        rw [hprocesses]
        exact hp i hi
      · rw [hstep, if_pos rfl]
        exact follows_setUpSteps hname (hconfig ▸ usable_reloadConfig hacc) rfl rfl hround p

/-- **The record of a target** goes, in every run, through the calls made for it and the
clean-up. -/
theorem follows_history (hname : name ≠ []) {calls : StartCalls} {its : List Iteration}
    (hs₀ : (start calls).result = .ok s₀) :
    Follows name none (history format name calls s₀ its) := by
  have hturns : ∀ its s p, Operating s → IsRecord name s p → Follows name p
      ((taken (iteration format) s its).flatMap fun c => turnSteps format name c.1 c.2) := by
    intro its
    induction its with
    | nil => exact fun _ p _ _ => .nil p
    | cons it its ih =>
      intro s p hs hp
      rw [taken, List.flatMap_cons]
      refine follows_turnSteps hname hs (fun r hr => by rw [hr]; rfl) (fun s' hs' q hq => ?_) hp
      rw [hs']
      exact ih s' q (iteration_operating hs hs') hq
  have hop := start_operating hs₀
  obtain ⟨_, _, _, rfl⟩ := start_ok hs₀
  exact follows_setUpSteps hname hop.usable rfl rfl (fun p hp => hturns its _ p hop hp) none

/-! ### Two runs -/

/-- The clean-up changes the PID only. -/
theorem forgetIf_eq (clear : Prop) [Decidable clear] (p : MonitoredProcess) :
    forgetIf clear p =
      { p with currentPid := if clear ∧ ¬ p.available then 0 else p.currentPid } := by
  unfold forgetIf
  split_ifs <;> rfl

/-- The clean-up leaves two records of a target the same exactly if it sees the target in both
rounds or in neither, or the target can be read, if it has a PID. -/
theorem sameTarget_forgetIf_iff {calls : ProcessCalls} {p q q' : MonitoredProcess}
    (hafter : AfterMonitoring calls p q) (hq : SameTarget q q') (last last' : Bool) :
    SameTarget (forgetIf last q) (forgetIf last' q') ↔
      last = last' ∨ ReadableIfFound calls p := by
  obtain ⟨pid, rfl⟩ := sameTarget_iff.mp hq
  have hpids : ∀ a b : Int32, SameTarget { q with currentPid := a }
      { q with configuredPid := pid, currentPid := b } ↔ b = a := by
    intro a b
    constructor
    · exact congrArg MonitoredProcess.currentPid
    · rintro rfl
      rfl
  rw [forgetIf_eq, forgetIf_eq, hpids, ReadableIfFound, ← hafter.available, ← hafter.currentPid]
  by_cases havail : q.available = true
  · simp [havail]
  · cases last <;> cases last' <;> simp [havail, eq_comm]

/-- A round of a target in two runs, given the same from the same record. -/
theorem sameAs_round_iff {r r' : TargetRound} (hbefore : SameTarget r.before r'.before)
    (hinput : (TargetStep.round r').input = (TargetStep.round r).input)
    (hactions : r.actions = (monitorProcessOnce r.config r.calls r.before).shown comparedAction)
    (hactions' : r'.actions =
      (monitorProcessOnce r'.config r'.calls r'.before).shown comparedAction)
    (hafter : ∀ p, r.after = some p → ∃ q,
      (monitorProcessOnce r.config r.calls r.before).result = .ok q ∧ p = forgetIf r.last q)
    (hafter' : ∀ p, r'.after = some p → ∃ q,
      (monitorProcessOnce r'.config r'.calls r'.before).result = .ok q ∧ p = forgetIf r'.last q) :
    (TargetStep.round r).SameAs (.round r') ↔ (TargetStep.round r).EndsAlike (.round r') := by
  obtain ⟨hsettings, hanswers⟩ := TargetInput.round.inj hinput
  have hlock := monitorProcessOnce_lockstep (E := fun _ => False) hbefore hsettings hanswers
  have hsame : r'.actions = r.actions := by
    rw [hactions, hactions']
    cases hlock with
    | both _ _ _ hview => exact hview.symm
    | stop _ _ hview => exact hview.symm
    | left h => exact h.elim
    | right h => exact h.elim
  unfold TargetStep.SameAs TargetStep.EndsAlike
  dsimp only
  rw [hsame, eq_self_iff_true, true_and]
  refine and_congr_right fun hends => ?_
  cases hp : r.after with
  | none => simp
  | some p =>
    cases hp' : r'.after with
    | none => simp [hp, hp'] at hends
    | some p' =>
      obtain ⟨q, hq, rfl⟩ := hafter p hp
      obtain ⟨q', hq', rfl⟩ := hafter' p' hp'
      have hqq' : SameTarget q q' := by
        cases hlock with
        | both hx hy h _ =>
          obtain rfl := Except.ok.inj (hq.symm.trans hx)
          obtain rfl := Except.ok.inj (hq'.symm.trans hy)
          exact h
        | stop hx _ _ => cases hq.symm.trans hx
        | left h => exact h.elim
        | right h => exact h.elim
      rw [← sameTarget_forgetIf_iff (monitorProcessOnce_ok hq) hqq' r.last r'.last]
      simp

/-- Two runs that give a target the same, from the same record: they do the same for it exactly
if their steps end alike. -/
theorem sameAs_iff_of_follows {p p' : Option MonitoredProcess} {steps steps' : List TargetStep}
    (h : Follows name p steps) (h' : Follows name p' steps')
    (hp : ∀ q q', p = some q → p' = some q' → SameTarget q q')
    (hinput : ∀ c ∈ steps.zip steps', c.2.input = c.1.input) :
    List.Forall₂ TargetStep.SameAs steps steps' ↔
      List.Forall₂ TargetStep.EndsAlike steps steps' := by
  induction h generalizing p' steps' with
  | nil p =>
    cases h' with
    | nil => exact iff_of_true .nil .nil
    | setUp => exact iff_of_false (by simp) (by simp)
    | round => exact iff_of_false (by simp) (by simp)
  | setUp p pid found steps h ih =>
    cases h' with
    | nil => exact iff_of_false (by simp) (by simp)
    | setUp _ pid' found' steps' h' =>
      rw [List.zip_cons_cons, List.forall_mem_cons] at hinput
      obtain rfl : found' = found := TargetInput.setUp.inj hinput.1
      have hrecord : SameTarget (targetRecord name pid found') (targetRecord name pid' found') :=
        rfl
      rw [List.forall₂_cons, List.forall₂_cons]
      refine and_congr (iff_of_true hrecord trivial) (ih h' (fun q q' hq hq' => ?_) hinput.2)
      obtain rfl := Option.some.inj hq
      obtain rfl := Option.some.inj hq'
      exact hrecord
    | round r' steps' _ _ _ =>
      rw [List.zip_cons_cons, List.forall_mem_cons] at hinput
      exact absurd hinput.1 (by simp [TargetStep.input])
  | round r steps hactions hafter h ih =>
    cases h' with
    | nil => exact iff_of_false (by simp) (by simp)
    | setUp _ pid' found' steps' h' =>
      rw [List.zip_cons_cons, List.forall_mem_cons] at hinput
      exact absurd hinput.1 (by simp [TargetStep.input])
    | round r' steps' hactions' hafter' h' =>
      rw [List.zip_cons_cons, List.forall_mem_cons] at hinput
      have hhead := sameAs_round_iff (hp _ _ rfl rfl) hinput.1 hactions hactions' hafter hafter'
      rw [List.forall₂_cons, List.forall₂_cons, hhead]
      exact and_congr_right fun hc => ih h' (hhead.mpr hc).2.2 hinput.2

/-! ### How the rounds end -/

/-- Two turns on the same system, with a target that is in both lists: the configurations and the
answers for the processes may differ, but nothing else. -/
structure SameTurn (name : Bytes) (c c' : MainState × Iteration) : Prop where
  /-- A new configuration is applied in both or in neither. -/
  reloaded : AppliesReload c'.1 c'.2 ↔ AppliesReload c.1 c.2
  /-- The files of the system and the clock. -/
  system : ∃ processes, c'.2.round = { c.2.round with processes := processes }
  /-- No record of the log is lost in the one turn. -/
  nothingLost : c.2.round.NothingLost
  /-- Nor in the other. -/
  nothingLost' : c'.2.round.NothingLost
  /-- The daemon has a PID. -/
  getpid : c.2.PidPositive
  /-- So it has in the other run. -/
  getpid' : c'.2.PidPositive
  /-- The target is listed. -/
  listed : ∀ s, (reloadIfRequested c.2.reload c.1).result = .ok s → (targetIndex name s).isSome
  /-- In both lists. -/
  listed' : ∀ s, (reloadIfRequested c'.2.reload c'.1).result = .ok s → (targetIndex name s).isSome

/-- The other targets treat a target alike in two rounds. -/
structure RoundAlike (calls calls' : RoundCalls) (s s' : MainState) (i i' : ProcessIndex) :
    Prop where
  /-- What is read of the targets in front of it fits the texts about them in both or in
  neither. -/
  reached : ReachesProcess calls s i ↔ ReachesProcess calls' s' i'
  /-- So does what is read of all the targets, unless the system ends the rounds. -/
  allFit : ReachesProcess calls s i → SystemAnswered calls s → (AllFit calls s ↔ AllFit calls' s')
  /-- If the round is completed, the target is the last one in both or in neither, or it can be
  read, if it has a PID. -/
  cleaned : AllFit calls s → SystemAnswered calls s →
    (i.val + 1 = s.processCount ↔ i'.val + 1 = s'.processCount) ∨
      ReadableIfFound (calls.processes i) (s.processes i)

/-- So they do in the rounds of two turns. -/
def TreatedAlike (name : Bytes) (c c' : MainState × Iteration) : Prop :=
  ∀ s s' i i', (reloadIfRequested c.2.reload c.1).result = .ok s →
    (reloadIfRequested c'.2.reload c'.1).result = .ok s' →
    targetIndex name s = some i → targetIndex name s' = some i' →
    RoundAlike c.2.round c'.2.round s s' i i'

theorem AllFit.reaches {calls : RoundCalls} {i : ProcessIndex} (h : AllFit calls s)
    (hi : i.val < s.processCount) : ReachesProcess calls s i :=
  fun j hlt => h j (lt_trans hlt hi)

/-- The record at the end of a round is there exactly if the round is completed. -/
theorem isSome_after {calls : RoundCalls} {i : ProcessIndex} (hcalls : calls.NothingLost)
    (hs : Operating s) :
    (targetRound format calls s i).after.isSome ↔ AllFit calls s ∧ SystemAnswered calls s := by
  rw [← round_ok_iff format hcalls hs, targetRound]
  cases (round format calls s).result with
  | error reason =>
    refine iff_of_false nofun ?_
    rintro ⟨_, h⟩
    cases h
  | ok s' => exact iff_of_true rfl ⟨s', rfl⟩

/-- Two rounds in which a target is monitored end alike exactly if it is treated alike. -/
theorem endsAlike_round_iff {format' : OutputFormat} {calls calls' : RoundCalls}
    {i i' : ProcessIndex} (hcalls : calls.NothingLost) (hcalls' : calls'.NothingLost)
    (hs : Operating s) (hs' : Operating s')
    (hsystem : SystemAnswered calls' s' ↔ SystemAnswered calls s)
    (hreached : ReachesProcess calls s i) (hreached' : ReachesProcess calls' s' i') :
    (TargetStep.round (targetRound format calls s i)).EndsAlike
      (.round (targetRound format' calls' s' i')) ↔ RoundAlike calls calls' s s' i i' := by
  unfold TargetStep.EndsAlike
  dsimp only
  rw [isSome_after hcalls hs, isSome_after hcalls' hs', hsystem]
  have hlast : (targetRound format calls s i).last = (targetRound format' calls' s' i').last ↔
      (i.val + 1 = s.processCount ↔ i'.val + 1 = s'.processCount) := decide_eq_decide
  rw [hlast]
  constructor
  · rintro ⟨hends, hcleaned⟩
    exact ⟨iff_of_true hreached hreached',
      fun _ hanswered => by simpa [hanswered] using hends.symm,
      fun hfit hanswered => hcleaned ⟨hfit, hanswered⟩⟩
  · intro h
    exact ⟨and_congr_left fun hanswered => (h.allFit hreached hanswered).symm,
      fun hends => h.cleaned hends.1 hends.2⟩

/-- A loop that gets to a target monitors it. -/
theorem roundSteps_of_reached {calls : RoundCalls} {i : ProcessIndex} (hcalls : calls.NothingLost)
    (hi : targetIndex name s = some i) (h : ReachesProcess calls s i) :
    roundSteps format name calls s = [.round (targetRound format calls s i)] := by
  unfold roundSteps
  rw [hi]
  exact if_pos ((mem_taken_monitorProcess_iff hcalls.processes (targetIndex_some hi).1).mpr h)

/-- One that does not leaves it out. -/
theorem roundSteps_of_not_reached {calls : RoundCalls} {i : ProcessIndex}
    (hcalls : calls.NothingLost) (hi : targetIndex name s = some i)
    (h : ¬ ReachesProcess calls s i) : roundSteps format name calls s = [] := by
  unfold roundSteps
  rw [hi]
  exact if_neg fun hm =>
    h ((mem_taken_monitorProcess_iff hcalls.processes (targetIndex_some hi).1).mp hm)

/-- A reload does not stop. -/
theorem reloadIfRequested_ok {it : Iteration} (hpid : it.PidPositive) (s : MainState) :
    ∃ s', (reloadIfRequested it.reload s).result = .ok s' := by
  cases hresult : (reloadIfRequested it.reload s).result with
  | ok s' => exact ⟨s', rfl⟩
  | error reason =>
    cases hreload : it.reload with
    | none =>
      rw [hreload] at hresult
      cases hresult
    | some calls =>
      rw [hreload] at hresult
      exact absurd (hpid calls hreload) ((reload_stops calls s).error reason hresult).2

/-- In front of its round, a turn sets the target up exactly if it applies a new configuration. -/
theorem turnSteps_eq (format : OutputFormat) {it : Iteration} {i : ProcessIndex}
    (hs' : (reloadIfRequested it.reload s).result = .ok s') (hi : targetIndex name s' = some i) :
    ∃ front, turnSteps format name s it = front ++ roundSteps format name it.round s' ∧
      ((AppliesReload s it ∧ ∃ found p, front = [.setUp found p]) ∨
        (¬ AppliesReload s it ∧ front = [])) := by
  unfold turnSteps
  rw [hs']
  dsimp only
  refine ⟨_, rfl, ?_⟩
  cases hreload : it.reload with
  | none =>
    refine .inr ⟨?_, rfl⟩
    rintro ⟨calls, hcalls, -⟩
    rw [hreload] at hcalls
    cases hcalls
  | some calls =>
    have happlies : AppliesReload s it ↔ (attemptReload calls s).1 = none := by
      simp [AppliesReload, hreload]
    rw [happlies]
    dsimp only
    split_ifs with hnone
    · refine .inl ⟨hnone, findProcessByName (calls.scans i) name, s'.processes i, ?_⟩
      unfold setUpSteps
      rw [hi]
    · exact .inr ⟨hnone, rfl⟩

/-- What is in front of two rounds ends alike. -/
theorem endsAlike_front_iff {front front' steps steps' : List TargetStep} {P P' : Prop}
    (h : (P ∧ ∃ found p, front = [.setUp found p]) ∨ (¬ P ∧ front = []))
    (h' : (P' ∧ ∃ found p, front' = [.setUp found p]) ∨ (¬ P' ∧ front' = [])) (hP : P' ↔ P) :
    List.Forall₂ TargetStep.EndsAlike (front ++ steps) (front' ++ steps') ↔
      List.Forall₂ TargetStep.EndsAlike steps steps' := by
  obtain ⟨hyes, found, p, rfl⟩ | ⟨hno, rfl⟩ := h
  · obtain ⟨-, found', p', rfl⟩ | ⟨hno, -⟩ := h'
    · rw [List.singleton_append, List.singleton_append, List.forall₂_cons]
      exact and_iff_right trivial
    · exact absurd (hP.mpr hyes) hno
  · obtain ⟨hyes, -⟩ | ⟨-, rfl⟩ := h'
    · exact absurd (hP.mp hyes) hno
    · rfl

/-- Two states between the turns of two runs on the same system. -/
structure BetweenTurns (s s' : MainState) : Prop where
  /-- The one is operating. -/
  operating : Operating s
  /-- So is the other. -/
  operating' : Operating s'
  /-- The sample of the network is from the same time. -/
  previousNetworkTime : s'.previousNetworkTime = s.previousNetworkTime
  /-- It is one to compare with. -/
  networkBaselineReset : s.networkBaselineReset = false
  /-- In both. -/
  networkBaselineReset' : s'.networkBaselineReset = false

/-- Behind the reloads of two turns, the sample of the network is one to compare with in both, and
from the same time, or it is in neither. -/
theorem clockBefore_of_reload {it it' : Iteration} {s₁ s₁' : MainState} (hs : BetweenTurns s s')
    (hreloaded : AppliesReload s' it' ↔ AppliesReload s it)
    (hs₁ : (reloadIfRequested it.reload s).result = .ok s₁)
    (hs₁' : (reloadIfRequested it'.reload s').result = .ok s₁') :
    clockBefore s₁' = clockBefore s₁ := by
  unfold clockBefore
  obtain ⟨hnot, hsame⟩ | ⟨happlies, calls, s₂, rfl⟩ := reloadIfRequested_cases hs₁
  · obtain ⟨-, hsame'⟩ | ⟨happlies', -⟩ := reloadIfRequested_cases hs₁'
    · rw [hsame.networkBaselineReset, hsame'.networkBaselineReset, hs.networkBaselineReset,
        hs.networkBaselineReset', hsame.previousNetworkTime, hsame'.previousNetworkTime,
        hs.previousNetworkTime]
    · exact absurd (hreloaded.mp happlies') hnot
  · obtain ⟨hnot', -⟩ | ⟨-, calls', s₂', rfl⟩ := reloadIfRequested_cases hs₁'
    · exact absurd (hreloaded.mpr happlies) hnot'
    · rfl

/-- Two turns that are completed lead to two such states again. -/
theorem BetweenTurns.iteration {format' : OutputFormat} {it it' : Iteration} {s₁ s₁' : MainState}
    (hs : BetweenTurns s s') (hturn : SameTurn name (s, it) (s', it'))
    (hs₁ : (iteration format s it).result = .ok s₁)
    (hs₁' : (iteration format' s' it').result = .ok s₁') : BetweenTurns s₁ s₁' := by
  obtain ⟨t, -, hround⟩ := result_bind_ok.mp hs₁
  obtain ⟨t', -, hround'⟩ := result_bind_ok.mp hs₁'
  obtain ⟨hreads, hreset⟩ := round_samples hround
  obtain ⟨hreads', hreset'⟩ := round_samples hround'
  refine ⟨iteration_operating hs.operating hs₁, iteration_operating hs.operating' hs₁', ?_,
    hreset, hreset'⟩
  have hclock : it'.round.clock = it.round.clock := by
    obtain ⟨processes, hprocesses⟩ := hturn.system
    dsimp only at hprocesses
    rw [hprocesses]
  exact Option.some.inj (hreads'.time.symm.trans (hclock.trans hreads.time))

/-- **Two turns** on the same system, and the turns behind them: the steps end alike exactly if
the target is treated alike in the two turns, and the steps behind end alike. -/
theorem endsAlike_turn_iff {format' : OutputFormat} {it it' : Iteration}
    {steps steps' : List TargetStep} {P : Prop} (hs : BetweenTurns s s')
    (hturn : SameTurn name (s, it) (s', it'))
    (hrest : ∀ s₁ s₁', (iteration format s it).result = .ok s₁ →
      (iteration format' s' it').result = .ok s₁' →
      (List.Forall₂ TargetStep.EndsAlike steps steps' ↔ P))
    (hstop : (∀ s₁, (iteration format s it).result ≠ .ok s₁) → steps = [] ∧ P)
    (hstop' : (∀ s₁, (iteration format' s' it').result ≠ .ok s₁) → steps' = [] ∧ P) :
    List.Forall₂ TargetStep.EndsAlike (turnSteps format name s it ++ steps)
        (turnSteps format' name s' it' ++ steps') ↔
      TreatedAlike name (s, it) (s', it') ∧ P := by
  obtain ⟨s₁, hs₁⟩ := reloadIfRequested_ok hturn.getpid s
  obtain ⟨s₁', hs₁'⟩ := reloadIfRequested_ok hturn.getpid' s'
  obtain ⟨i, hi⟩ := Option.isSome_iff_exists.mp (hturn.listed s₁ hs₁)
  obtain ⟨i', hi'⟩ := Option.isSome_iff_exists.mp (hturn.listed' s₁' hs₁')
  have htreated : TreatedAlike name (s, it) (s', it') ↔
      RoundAlike it.round it'.round s₁ s₁' i i' := by
    refine ⟨fun h => h s₁ s₁' i i' hs₁ hs₁' hi hi', fun h t t' j j' ht ht' hj hj' => ?_⟩
    obtain rfl := Except.ok.inj (hs₁.symm.trans ht)
    obtain rfl := Except.ok.inj (hs₁'.symm.trans ht')
    obtain rfl := Option.some.inj (hi.symm.trans hj)
    obtain rfl := Option.some.inj (hi'.symm.trans hj')
    exact h
  have hop := reloadIfRequested_operating hs.operating hs₁
  have hop' := reloadIfRequested_operating hs.operating' hs₁'
  have hsystem : SystemAnswered it'.round s₁' ↔ SystemAnswered it.round s₁ :=
    systemAnswered_congr hturn.system (clockBefore_of_reload hs hturn.reloaded hs₁ hs₁')
  -- a turn is completed if its round is
  have hcompleted : (∃ t, (iteration format s it).result = .ok t) ↔
      AllFit it.round s₁ ∧ SystemAnswered it.round s₁ := by
    rw [iteration, bind_of_ok hs₁]
    exact round_ok_iff format hturn.nothingLost hop
  have hcompleted' : (∃ t, (iteration format' s' it').result = .ok t) ↔
      AllFit it'.round s₁' ∧ SystemAnswered it.round s₁ := by
    rw [iteration, bind_of_ok hs₁', ← hsystem]
    exact round_ok_iff format' hturn.nothingLost' hop'
  obtain ⟨front, hfront, hsetUp⟩ := turnSteps_eq format hs₁ hi
  obtain ⟨front', hfront', hsetUp'⟩ := turnSteps_eq format' hs₁' hi'
  rw [hfront, hfront', List.append_assoc, List.append_assoc,
    endsAlike_front_iff hsetUp hsetUp' hturn.reloaded, htreated]
  by_cases hreached : ReachesProcess it.round s₁ i
  · rw [roundSteps_of_reached hturn.nothingLost hi hreached]
    by_cases hreached' : ReachesProcess it'.round s₁' i'
    · rw [roundSteps_of_reached hturn.nothingLost' hi' hreached', List.singleton_append,
        List.singleton_append, List.forall₂_cons, endsAlike_round_iff hturn.nothingLost
          hturn.nothingLost' hop hop' hsystem hreached hreached']
      refine and_congr_right fun halike => ?_
      -- treated alike, the rounds are completed in both turns or in neither
      have hboth : (AllFit it'.round s₁' ∧ SystemAnswered it.round s₁) ↔
          (AllFit it.round s₁ ∧ SystemAnswered it.round s₁) :=
        and_congr_left fun hanswered => (halike.allFit hreached hanswered).symm
      by_cases hends : ∃ t, (iteration format s it).result = .ok t
      · obtain ⟨t, ht⟩ := hends
        obtain ⟨t', ht'⟩ := hcompleted'.mpr (hboth.mpr (hcompleted.mp ⟨t, ht⟩))
        exact hrest t t' ht ht'
      · obtain ⟨rfl, hP⟩ := hstop fun t ht => hends ⟨t, ht⟩
        obtain ⟨rfl, -⟩ := hstop' fun t' ht' =>
          hends (hcompleted.mpr (hboth.mp (hcompleted'.mp ⟨t', ht'⟩)))
        exact iff_of_true .nil hP
    · rw [roundSteps_of_not_reached hturn.nothingLost' hi' hreached']
      obtain ⟨rfl, -⟩ := hstop' fun t' ht' => hreached'
        ((hcompleted'.mp ⟨t', ht'⟩).1.reaches (targetIndex_some hi').1)
      exact iff_of_false (by simp) fun h => hreached' (h.1.reached.mp hreached)
  · rw [roundSteps_of_not_reached hturn.nothingLost hi hreached]
    obtain ⟨rfl, hP⟩ := hstop fun t ht => hreached
      ((hcompleted.mp ⟨t, ht⟩).1.reaches (targetIndex_some hi).1)
    by_cases hreached' : ReachesProcess it'.round s₁' i'
    · rw [roundSteps_of_reached hturn.nothingLost' hi' hreached']
      exact iff_of_false (by simp) fun h => hreached (h.1.reached.mpr hreached')
    · rw [roundSteps_of_not_reached hturn.nothingLost' hi' hreached']
      obtain ⟨rfl, -⟩ := hstop' fun t' ht' => hreached'
        ((hcompleted'.mp ⟨t', ht'⟩).1.reaches (targetIndex_some hi').1)
      refine iff_of_true .nil ⟨⟨iff_of_false hreached hreached', fun h => absurd h hreached,
        fun hfit => ?_⟩, hP⟩
      exact absurd (hfit.reaches (targetIndex_some hi).1) hreached

/-- **The turns of two runs** on the same system: the steps of the target end alike exactly if it
is treated alike in all the turns that both runs take. -/
theorem endsAlike_turns_iff {format' : OutputFormat} {its its' : List Iteration}
    (hs : BetweenTurns s s') (hlength : its'.length = its.length)
    (hturns : ∀ c ∈ (taken (iteration format) s its).zip (taken (iteration format') s' its'),
      SameTurn name c.1 c.2) :
    List.Forall₂ TargetStep.EndsAlike
        ((taken (iteration format) s its).flatMap fun c => turnSteps format name c.1 c.2)
        ((taken (iteration format') s' its').flatMap fun c => turnSteps format' name c.1 c.2) ↔
      ∀ c ∈ (taken (iteration format) s its).zip (taken (iteration format') s' its'),
        TreatedAlike name c.1 c.2 := by
  induction its generalizing s s' its' with
  | nil =>
    obtain rfl := List.length_eq_zero_iff.mp hlength
    simp [taken]
  | cons it its ih =>
    cases its' with
    | nil => cases hlength
    | cons it' its' =>
      rw [taken, taken, List.zip_cons_cons, List.forall_mem_cons] at hturns
      obtain ⟨hturn, hturns⟩ := hturns
      rw [taken, taken, List.zip_cons_cons, List.forall_mem_cons, List.flatMap_cons,
        List.flatMap_cons]
      refine endsAlike_turn_iff hs hturn (fun s₁ s₁' hs₁ hs₁' => ?_) (fun hnot => ?_)
        (fun hnot => ?_)
      · rw [hs₁, hs₁'] at hturns ⊢
        exact ih (hs.iteration hturn hs₁ hs₁') (Nat.succ.inj hlength) hturns
      · obtain ⟨reason, hreason⟩ := error_of_not_ok hnot
        simp [hreason]
      · obtain ⟨reason, hreason⟩ := error_of_not_ok hnot
        simp [hreason]

/-- Two runs on the same system, of a target that is in both lists. -/
structure SameSystem (name : Bytes) (format format' : OutputFormat) (calls calls' : StartCalls)
    (its its' : List Iteration) (s₀ s₀' : MainState) : Prop where
  /-- The first sample of the network is from the same time. -/
  clock : calls'.clock = calls.clock
  /-- As many turns are given to both. -/
  length : its'.length = its.length
  /-- The target is listed at the start. -/
  listed : (targetIndex name s₀).isSome
  /-- In both lists. -/
  listed' : (targetIndex name s₀').isSome
  /-- The turns that both take. -/
  turns : ∀ c ∈ (taken (iteration format) s₀ its).zip (taken (iteration format') s₀' its'),
    SameTurn name c.1 c.2

/-- Two starts at the same time lead to two states that can be compared. -/
theorem betweenTurns_start {calls calls' : StartCalls} {s₀ s₀' : MainState}
    (hclock : calls'.clock = calls.clock) (hs₀ : (start calls).result = .ok s₀)
    (hs₀' : (start calls').result = .ok s₀') : BetweenTurns s₀ s₀' := by
  have hop := start_operating hs₀
  have hop' := start_operating hs₀'
  obtain ⟨_, _, time, -, htime, rfl⟩ := start_samples hs₀
  obtain ⟨_, _, time', -, htime', rfl⟩ := start_samples hs₀'
  exact ⟨hop, hop', Option.some.inj (htime'.symm.trans (hclock.trans htime)), rfl, rfl⟩

/-- **What two histories owe to the other targets**: their steps end alike exactly if the target
is treated alike in all the turns that both runs take. -/
theorem endsAlike_history_iff {format' : OutputFormat} {calls calls' : StartCalls}
    {its its' : List Iteration} {s₀ s₀' : MainState} (hs₀ : (start calls).result = .ok s₀)
    (hs₀' : (start calls').result = .ok s₀')
    (hsystem : SameSystem name format format' calls calls' its its' s₀ s₀') :
    List.Forall₂ TargetStep.EndsAlike (history format name calls s₀ its)
        (history format' name calls' s₀' its') ↔
      ∀ c ∈ (taken (iteration format) s₀ its).zip (taken (iteration format') s₀' its'),
        TreatedAlike name c.1 c.2 := by
  obtain ⟨i, hi⟩ := Option.isSome_iff_exists.mp hsystem.listed
  obtain ⟨i', hi'⟩ := Option.isSome_iff_exists.mp hsystem.listed'
  unfold history setUpSteps
  rw [hi, hi']
  dsimp only
  rw [List.singleton_append, List.singleton_append, List.forall₂_cons,
    endsAlike_turns_iff (betweenTurns_start hsystem.clock hs₀ hs₀') hsystem.length hsystem.turns]
  exact and_iff_right trivial

/-- **Targets do not influence each other**, up to the length of the texts and the clean-up: two
runs on the same system in which a target is given the same settings and the same answers do the
same for it, step by step and equally often, if and only if in every turn that both take what is
read of the targets in front of it fits the texts about them in both or in neither, what is read
of all the targets does, and it is the last of the list in both or in neither, or it can be read,
if it has a PID. -/
theorem sameSequence_iff (name : Bytes) (hname : name ≠ []) (format format' : OutputFormat)
    (calls calls' : StartCalls) (its its' : List Iteration) (s₀ s₀' : MainState)
    (hs₀ : (start calls).result = .ok s₀) (hs₀' : (start calls').result = .ok s₀')
    (hsystem : SameSystem name format format' calls calls' its its' s₀ s₀')
    (hinput : ∀ c ∈ (history format name calls s₀ its).zip (history format' name calls' s₀' its'),
      c.2.input = c.1.input) :
    List.Forall₂ TargetStep.SameAs (history format name calls s₀ its)
        (history format' name calls' s₀' its') ↔
      ∀ c ∈ (taken (iteration format) s₀ its).zip (taken (iteration format') s₀' its'),
        TreatedAlike name c.1 c.2 := by
  rw [← endsAlike_history_iff hs₀ hs₀' hsystem]
  exact sameAs_iff_of_follows (follows_history hname hs₀) (follows_history hname hs₀')
    (fun _ _ h => by cases h) hinput

/-- A start with the two processes `a` and `b`, and this list of targets. -/
def startWith (names : Bytes) : StartCalls :=
  quietStart .zero (ascii "process_names=" ++ names ++ ascii "\n") twoProcesses

/-- A round in which every process sees this `/proc` loses no record. -/
theorem nothingLost_quietRound (proc : ProcFs) (seconds : ℤ) :
    (quietRound proc seconds).NothingLost :=
  ⟨fun _ => ⟨rfl, rfl, rfl, nofun⟩, rfl, rfl⟩

/-- Two runs of one turn on the same system. -/
theorem sameSystem_single {calls calls' : StartCalls} {proc : ProcFs} {s₀' : MainState}
    (hclock : calls'.clock = calls.clock) (hlisted : (targetIndex name s₀).isSome)
    (hlisted' : (targetIndex name s₀').isSome) :
    SameSystem name .json .json calls calls' [⟨none, quietRound proc 1⟩]
      [⟨none, quietRound proc 1⟩] s₀ s₀' := by
  have hnone : ∀ s, ¬ AppliesReload s ⟨none, quietRound proc 1⟩ := by
    rintro s ⟨calls, hcalls, -⟩
    cases hcalls
  refine ⟨hclock, rfl, hlisted, hlisted', ?_⟩
  rw [taken_singleton, taken_singleton]
  intro c hc
  obtain rfl := List.mem_singleton.mp hc
  refine ⟨iff_of_false (hnone _) (hnone _), ⟨_, rfl⟩, nothingLost_quietRound proc 1,
    nothingLost_quietRound proc 1, nofun, nofun, fun s hs => ?_, fun s hs => ?_⟩
  · obtain rfl := Except.ok.inj hs
    exact hlisted
  · obtain rfl := Except.ok.inj hs
    exact hlisted'

/-- The list can be permuted, as long as the processes are there. -/
theorem sameSequence_permuted :
    ∃ s₀ s₀', (start (startWith (ascii "a,b"))).result = .ok s₀ ∧
      (start (startWith (ascii "b,a"))).result = .ok s₀' ∧
      List.Forall₂ TargetStep.SameAs
        (history .json (ascii "a") (startWith (ascii "a,b")) s₀
          [⟨none, quietRound twoProcesses 1⟩])
        (history .json (ascii "a") (startWith (ascii "b,a")) s₀'
          [⟨none, quietRound twoProcesses 1⟩]) := by
  have hrun : ((start (startWith (ascii "a,b"))).result.map fun s₀ =>
      (start (startWith (ascii "b,a"))).result.map fun s₀' =>
        (targetIndex (ascii "a") s₀, targetIndex (ascii "a") s₀',
          decide (∀ c ∈ (history .json (ascii "a") (startWith (ascii "a,b")) s₀
            [⟨none, quietRound twoProcesses 1⟩]).zip
              (history .json (ascii "a") (startWith (ascii "b,a")) s₀'
                [⟨none, quietRound twoProcesses 1⟩]), c.2.input = c.1.input),
          decide (ReadableIfFound (quietProcess twoProcesses) (s₀.processes 0)))) =
      .ok (.ok (some 0, some 1, true, true)) := by decide +kernel
  obtain ⟨s₀, hs₀, hrun⟩ := ok_of_map_ok hrun
  obtain ⟨s₀', hs₀', hrun⟩ := ok_of_map_ok hrun
  obtain ⟨hindex, hrun⟩ := Prod.mk.inj hrun
  obtain ⟨hindex', hrun⟩ := Prod.mk.inj hrun
  obtain ⟨hinput, hreadable⟩ := Prod.mk.inj hrun
  refine ⟨s₀, s₀', hs₀, hs₀', (sameSequence_iff (ascii "a") (by decide) .json .json _ _ _ _ s₀ s₀'
    hs₀ hs₀' (sameSystem_single rfl (hindex ▸ rfl) (hindex' ▸ rfl))
    (of_decide_eq_true hinput)).mpr ?_⟩
  rw [taken_singleton, taken_singleton]
  intro c hc s s' i i' hs hs' hi hi'
  obtain rfl := List.mem_singleton.mp hc
  obtain rfl := Except.ok.inj hs
  obtain rfl := Except.ok.inj hs'
  obtain rfl := Option.some.inj (hindex.symm.trans hi)
  -- all the names are short
  have hfit : ∀ s : MainState, ∀ j, MessagesFit (quietProcess twoProcesses) (s.processes j) :=
    fun s j => (shortNames_quietProcess (by decide +kernel)).messagesFit _
  exact ⟨iff_of_true (fun j _ => hfit s₀ j) fun j _ => hfit s₀' j,
    fun _ _ => iff_of_true (fun j _ => hfit s₀ j) fun j _ => hfit s₀' j,
    fun _ _ => .inr (of_decide_eq_true hreadable)⟩

/-- A target that exits is looked up again behind the other target, and not before it. -/
theorem earlier_target_depends_on_list : ¬ ∀ (name : Bytes) (format format' : OutputFormat)
    (calls calls' : StartCalls) (its its' : List Iteration) (s₀ s₀' : MainState), name ≠ [] →
    (start calls).result = .ok s₀ → (start calls').result = .ok s₀' →
    SameSystem name format format' calls calls' its its' s₀ s₀' →
    (∀ c ∈ (history format name calls s₀ its).zip (history format' name calls' s₀' its'),
      c.2.input = c.1.input) →
    List.Forall₂ TargetStep.SameAs (history format name calls s₀ its)
      (history format' name calls' s₀' its') := by
  intro h
  have hrun : ((start (startWith (ascii "a,b"))).result.map fun s₀ =>
      (start (startWith (ascii "b,a"))).result.map fun s₀' =>
        let its := [⟨none, quietRound secondProcess 1⟩]
        let steps := history .json (ascii "a") (startWith (ascii "a,b")) s₀ its
        let steps' := history .json (ascii "a") (startWith (ascii "b,a")) s₀' its
        (targetIndex (ascii "a") s₀, targetIndex (ascii "a") s₀',
          decide (∀ c ∈ steps.zip steps', c.2.input = c.1.input),
          decide (List.Forall₂ TargetStep.EndsAlike steps steps'))) =
      .ok (.ok (some 0, some 1, true, false)) := by decide +kernel
  obtain ⟨s₀, hs₀, hrun⟩ := ok_of_map_ok hrun
  obtain ⟨s₀', hs₀', hrun⟩ := ok_of_map_ok hrun
  obtain ⟨hindex, hrun⟩ := Prod.mk.inj hrun
  obtain ⟨hindex', hrun⟩ := Prod.mk.inj hrun
  obtain ⟨hinput, hends⟩ := Prod.mk.inj hrun
  have hname : ascii "a" ≠ [] := by decide
  have hsame := h (ascii "a") .json .json _ _ _ _ s₀ s₀' hname hs₀ hs₀'
    (sameSystem_single rfl (hindex ▸ rfl) (hindex' ▸ rfl)) (of_decide_eq_true hinput)
  exact of_decide_eq_false hends ((sameAs_iff_of_follows (follows_history hname hs₀)
    (follows_history hname hs₀') (fun _ _ h => by cases h) (of_decide_eq_true hinput)).mp hsame)

end EdgeSentinel.Monitor
