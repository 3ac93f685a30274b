import EdgeSentinel.Monitor.Alerts
import EdgeSentinel.Monitor.Record
import EdgeSentinel.Monitor.Tracking

/-!
# The texts about a process

`monitor_process_once` prints the name of a process, its state and numbers into buffers of 256
bytes, and returns -1 if one of the texts does not fit. The name alone may have 255 bytes.

## The model

* `ProcessCalls.Fails` — the failures of `monitor_process_once` behind which a record of the log
  could not be written, or `clock_gettime` failed.
* `MessagesFit` — the name and the state are short enough.

## What is proved

* `gradeMemory_fails`, …, `monitorProcessOnce_fails` — where they are, there is no other failure.
* `messagesFit_of_ok` — a call that returns 0 has found them to be.
* `endsOnlyForCalls_of_messagesFit` — **in a run**, texts that fit never end it, and those that do
  not fit always do.
-/

namespace EdgeSentinel.Monitor

open CLib Config Trace Trace.Traced

/-- A call for this process fails in this way: a record of the log is not written, or the clock
cannot be read. -/
def ProcessCalls.Fails (calls : ProcessCalls) : MonitorFailure → Prop
  | .memoryLogWrite => calls.memoryLogWritten = false
  | .cpuLogWrite => calls.cpuLogWritten = false
  | .availabilityLogWrite => calls.availabilityLogWritten = false
  | .clock => calls.clock = none
  | _ => False

/-- `monitor_process_once` returns -1 only for such a failure. -/
def EndsOnlyForCalls (config : AppConfig) (calls : ProcessCalls) (p : MonitoredProcess) : Prop :=
  ∀ failure, (monitorProcessOnce config calls p).result = .error failure → calls.Fails failure

/-- The process was unavailable before, and is available again: the same one, as far as the
program knows. -/
def Recovers (calls : ProcessCalls) (p : MonitoredProcess) : Prop :=
  ¬ NewlyFound calls p ∧ p.availabilityInitialized = true ∧ p.previousAvailable = false

/-- What is read of a process fits the texts about it. -/
structure MessagesFit (calls : ProcessCalls) (p : MonitoredProcess) : Prop where
  /-- The name and the PID fit the target of a notification. -/
  target : ∀ info, readProcessInfo calls.status (pidInRound calls p) = some info →
    info.name.bytes.length + 5 + (decimalInt (pidInRound calls p).toInt).length < 256
  /-- All of it fits the record that says that the process is back. -/
  recovered : ∀ info, readProcessInfo calls.status (pidInRound calls p) = some info →
    Recovers calls p →
    57 + (decimalInt (pidInRound calls p).toInt).length + info.name.bytes.length +
      info.state.bytes.length + (decimal info.residentMemoryKb.toNat).length < 256

variable {config : AppConfig} {calls : ProcessCalls} {p p' : MonitoredProcess}

/-! ### The texts -/

/-- The target of a notification; a name that is empty is replaced by a short one. -/
theorem length_notificationTarget_lt_iff (p : MonitoredProcess) :
    (notificationTarget p).length < alertEventTargetLength ↔
      p.info.name.bytes.length + 5 + (decimalInt p.currentPid.toInt).length < 256 := by
  have hpid := length_decimalInt_pid_le p.currentPid
  have htext : (ascii " PID=").length = 5 := by decide
  have hprocess : (ascii "process").length = 7 := by decide
  simp only [notificationTarget, List.length_append, htext]
  split_ifs with hname
  · rfl
  · rw [not_not] at hname
    rw [hname, hprocess]
    simp only [List.length_nil, alertEventTargetLength]
    omega

/-- The record that says that a process is back. -/
theorem length_recoveredMessage (h : p.available = true) :
    (availabilityLogMessage p).2.length = 57 + (decimalInt p.info.pid.toInt).length +
      p.info.name.bytes.length + p.info.state.bytes.length +
      (decimal p.info.residentMemoryKb.toNat).length := by
  have h₁ : (ascii "Monitored process recovered: PID=").length = 33 := by decide
  have h₂ : (ascii " Name=").length = 6 := by decide
  have h₃ : (ascii " State=").length = 7 := by decide
  have h₄ : (ascii " Memory=").length = 8 := by decide
  have h₅ : (ascii " kB").length = 3 := by decide
  simp only [availabilityLogMessage, if_pos h, List.length_append, h₁, h₂, h₃, h₄, h₅]
  omega

/-- The one that says that it is gone. -/
theorem length_unavailableMessage_lt (h : p.available = false) :
    (availabilityLogMessage p).2.length < logMessageSize := by
  have hpid := length_decimalInt_pid_le p.currentPid
  have htext : (ascii "Monitored process unavailable: PID=").length = 35 := by decide
  simp only [availabilityLogMessage, h, Bool.false_eq_true, if_false, List.length_append, htext,
    logMessageSize]
  omega

/-! ### Failures -/

theorem writeLog_fails {call : LogCall} {level message : Bytes} {written : Bool}
    {failure : MonitorFailure} (h : written = false → calls.Fails failure) :
    (writeLog config call level message written failure).Yields (fun _ => True) calls.Fails :=
  .emit_bind (.check (fun _ => trivial) fun hw => h (eq_false_of_ne_true hw))

theorem gradeMemory_fails (h : (notificationTarget p).length < alertEventTargetLength) :
    (gradeMemory config calls p).Yields (fun _ => True) calls.Fails := by
  refine .check_bind (fun _ => .emit_bind ?_) fun hlong => absurd h hlong
  refine .seq (watchLevel_yields (fun previous => ?_) _ _) fun _ => .pure trivial
  refine .check_bind (fun _ => ?_) fun hlong => absurd (length_memoryLogMessage_lt _ _ _ _) hlong
  exact .seq (writeLog_fails id) fun _ => sendAlertChangeNotification_yields _ _ _

theorem gradeProcessCpu_fails {q : ℚ} (husage : p.cpuUsage = .finite q)
    (hq : |q| < (10 ^ 31 : ℕ)) :
    (gradeProcessCpu config calls p).Yields (fun _ => True) calls.Fails := by
  refine .emit_bind (.seq (watchLevel_yields (fun previous => ?_) _ _) fun _ => .pure trivial)
  refine .check_bind (fun _ => ?_) fun hlong => ?_
  · exact .seq (writeLog_fails id) fun _ => sendAlertChangeNotification_yields _ _ _
  · rw [husage] at hlong
    exact absurd (length_cpuLogMessage_lt _ _ _ hq) hlong

theorem compareCpuSamples_fails (times : ProcessCpuTimes) (time : Timespec) :
    (compareCpuSamples config calls times time p).Yields (fun _ => True) calls.Fails := by
  unfold compareCpuSamples
  split_ifs
  · obtain ⟨q, husage, hq⟩ := calculateProcessCpuUsage_eq calls.ticksPerSecond p.previousCpuTimes
      times p.previousCpuSampleTime time
    refine .emit_bind ?_
    dsimp only
    split_ifs
    · exact gradeProcessCpu_fails husage hq
    · exact .pure trivial
  · exact .pure trivial

theorem monitorProcessCpu_fails (p : MonitoredProcess) :
    (monitorProcessCpu config calls p).Yields (fun _ => True) calls.Fails := by
  unfold monitorProcessCpu
  split_ifs
  · unfold sampleProcessCpu
    cases readProcessCpuTimes calls.stat p.currentPid with
    | none => exact .emit_bind (.pure trivial)
    | some times =>
      refine .orStop_bind (fun time _ => .emit_bind ?_) id
      exact .seq (compareCpuSamples_fails times time) fun _ => .pure trivial
  · exact .pure trivial

theorem watchAvailability_fails (h : p.availabilityInitialized = true → p.available = true →
    p.previousAvailable = false → (availabilityLogMessage p).2.length < logMessageSize) :
    (watchAvailability config calls p).Yields (fun _ => True) calls.Fails := by
  unfold watchAvailability
  split_ifs with hinitialized hchanged
  · have hfits : (availabilityLogMessage p).2.length < logMessageSize := by
      cases havailable : p.available with
      | false => exact length_unavailableMessage_lt havailable
      | true =>
        rw [havailable] at hchanged
        exact h hinitialized havailable (eq_false_of_ne_true fun he => hchanged he.symm)
    exact .check_bind (fun _ => .seq (writeLog_fails id) fun _ => .pure trivial)
      fun hlong => absurd hfits hlong
  · exact .pure trivial
  · exact .pure trivial

theorem readProcess_fails (h : ∀ info, readProcessInfo calls.status p.currentPid = some info →
    info.name.bytes.length + 5 + (decimalInt p.currentPid.toInt).length < 256) :
    (readProcess config calls p).Yields (fun _ => True) calls.Fails := by
  unfold readProcess
  cases hread : readProcessInfo calls.status p.currentPid with
  | none => exact .emit_bind (.pure trivial)
  | some info =>
    exact .emit_bind (gradeMemory_fails ((length_notificationTarget_lt_iff _).mpr (h info hread)))

/-! ### A call -/

/-- Behind the look-up, a process that recovers is one whose availability before is known. -/
theorem recovers_iff : Recovers calls p ↔ (lookedUp calls p).availabilityInitialized = true ∧
    (lookedUp calls p).previousAvailable = false := by
  unfold Recovers
  by_cases hnew : NewlyFound calls p
  · rw [lookedUp_of_newlyFound hnew]
    exact iff_of_false (fun h => h.1 hnew) fun h => Bool.false_ne_true h.1
  · rw [lookedUp_of_not_newlyFound hnew]
    exact and_iff_right hnew

/-- What the comparison of the availabilities sees: what was known before, and what was read. -/
theorem beforeAvailability {p₂ p₃ : MonitoredProcess}
    (hp₂ : (readProcess config calls (lookedUp calls p)).result = .ok p₂)
    (hp₃ : (monitorProcessCpu config calls { p₂ with cpuUsageValid := false }).result = .ok p₃) :
    (Recovers calls p ↔ p₃.availabilityInitialized = true ∧ p₃.previousAvailable = false) ∧
      ((readProcessInfo calls.status (pidInRound calls p) = none ∧ p₃.available = false) ∨
        readProcessInfo calls.status (pidInRound calls p) = some p₃.info ∧
          p₃.available = true) := by
  obtain ⟨havailable, hprevious, hinitialized⟩ := monitorProcessCpu_keeps hp₃
  have hinfo := ((monitorProcessCpu_yields config calls _).ok _ hp₃).info
  rw [recovers_iff, hinitialized, hprevious, hinfo, havailable, ← currentPid_lookedUp]
  obtain ⟨hread, rfl⟩ | ⟨info, hread, hp₂⟩ := readProcess_ok hp₂
  · exact ⟨Iff.rfl, .inl ⟨hread, rfl⟩⟩
  · rw [hp₂]
    exact ⟨Iff.rfl, .inr ⟨hread, rfl⟩⟩

/-- **A call** fails for nothing else, where the texts fit. -/
theorem monitorProcessOnce_fails (h : MessagesFit calls p) : EndsOnlyForCalls config calls p := by
  have hlook : (lookUpProcess calls p).Yields (fun p₁ => p₁ = lookedUp calls p) calls.Fails := by
    refine ⟨fun p₁ hp₁ => ?_, fun r hr => ?_⟩
    · exact Except.ok.inj (hp₁.symm.trans (lookUpProcess_result calls p))
    · rw [lookUpProcess_result] at hr
      cases hr
  have hpid := currentPid_lookedUp calls p
  have hread : (readProcess config calls (lookedUp calls p)).Yields (fun p₂ =>
      (readProcess config calls (lookedUp calls p)).result = .ok p₂) calls.Fails := by
    refine ⟨fun _ => id, (readProcess_fails fun info hinfo => ?_).error⟩
    rw [hpid] at hinfo ⊢
    exact h.target info hinfo
  refine Yields.error (Q := fun _ => True) (.bind hlook ?_)
  rintro _ rfl
  refine .bind hread fun p₂ hp₂ => ?_
  refine .bind (Q := fun p₃ => (monitorProcessCpu config calls _).result = .ok p₃)
    ⟨fun _ => id, (monitorProcessCpu_fails _).error⟩ fun p₃ hp₃ => ?_
  obtain ⟨hrecovers, hseen⟩ := beforeAvailability hp₂ hp₃
  refine .seq (watchAvailability_fails fun hinitialized havailable hprevious => ?_)
    fun _ => .emit_bind (.pure trivial)
  obtain ⟨-, hgone⟩ | ⟨hinfo, -⟩ := hseen
  · rw [havailable] at hgone
    cases hgone
  · rw [length_recoveredMessage havailable, (readProcessInfo_some hinfo).2]
    exact h.recovered _ hinfo (hrecovers.mpr ⟨hinitialized, hprevious⟩)

/-- **A call** that returns 0 has not met a text that does not fit. -/
theorem messagesFit_of_ok (h : (monitorProcessOnce config calls p).result = .ok p') :
    MessagesFit calls p := by
  obtain ⟨p₁, hp₁, h⟩ := result_bind_ok.mp h
  obtain rfl := Except.ok.inj ((lookUpProcess_result calls p).symm.trans hp₁)
  obtain ⟨p₂, hp₂, h⟩ := result_bind_ok.mp h
  obtain ⟨p₃, hp₃, h⟩ := result_bind_ok.mp h
  obtain ⟨p₄, hp₄, -⟩ := result_bind_ok.mp h
  obtain ⟨hrecovers, hseen⟩ := beforeAvailability hp₂ hp₃
  have hpid := currentPid_lookedUp calls p
  constructor
  · intro info hinfo
    rw [readProcess, hpid, hinfo, result_emit_bind] at hp₂
    obtain ⟨⟨⟩, htarget, -⟩ := result_bind_ok.mp hp₂
    rw [result_check_ok, length_notificationTarget_lt_iff] at htarget
    exact htarget
  · intro info hinfo hback
    obtain ⟨hnone, -⟩ | ⟨hsome, havailable⟩ := hseen
    · rw [hnone] at hinfo
      cases hinfo
    · obtain rfl := Option.some.inj (hsome.symm.trans hinfo)
      obtain ⟨hinitialized, hprevious⟩ := hrecovers.mp hback
      unfold watchAvailability at hp₄
      rw [if_neg (not_not.mpr hinitialized), if_pos (by rw [havailable, hprevious]; decide)] at hp₄
      obtain ⟨⟨⟩, hfits, -⟩ := result_bind_ok.mp hp₄
      rw [result_check_ok] at hfits
      have hlength := length_recoveredMessage havailable
      rw [(readProcessInfo_some hsome).2] at hlength
      rw [← hlength]
      exact hfits

/-! ### Runs -/

/-- No record of the log is lost in this round, and the clock can be read. -/
structure ProcessCalls.Succeed (calls : ProcessCalls) : Prop where
  /-- The record of a memory level. -/
  memoryLog : calls.memoryLogWritten = true
  /-- The record of a CPU level. -/
  cpuLog : calls.cpuLogWritten = true
  /-- The record of the availability. -/
  availabilityLog : calls.availabilityLogWritten = true
  /-- The clock. -/
  clock : calls.clock ≠ none

/-- Where all calls succeed, the texts decide. -/
theorem endsOnlyForCalls_iff (h : calls.Succeed) :
    EndsOnlyForCalls config calls p ↔ MessagesFit calls p := by
  refine ⟨fun hends => ?_, monitorProcessOnce_fails⟩
  cases hresult : (monitorProcessOnce config calls p).result with
  | ok p' => exact messagesFit_of_ok hresult
  | error failure =>
    have hfails := hends failure hresult
    cases failure
    case memoryLogWrite => exact absurd (h.memoryLog.symm.trans hfails) (by decide)
    case cpuLogWrite => exact absurd (h.cpuLog.symm.trans hfails) (by decide)
    case availabilityLogWrite => exact absurd (h.availabilityLog.symm.trans hfails) (by decide)
    case clock => exact absurd hfails h.clock
    all_goals exact hfails.elim

/-- **In a run** in which all texts fit, `monitor_process_once` returns -1 only where a record of
the log cannot be written, or the clock cannot be read; and a text that does not fit ends every
round in which these calls succeed. -/
theorem endsOnlyForCalls_of_messagesFit (format : OutputFormat) (s₀ : MainState)
    (its : List Iteration) :
    ((∀ config calls p, MonitorCall format s₀ its config calls p → MessagesFit calls p) →
      ∀ config calls p, MonitorCall format s₀ its config calls p →
        EndsOnlyForCalls config calls p) ∧
      ∀ config calls p, MonitorCall format s₀ its config calls p → calls.Succeed →
        (EndsOnlyForCalls config calls p ↔ MessagesFit calls p) :=
  ⟨fun hfit config calls p h => monitorProcessOnce_fails (hfit config calls p h),
    fun _ _ _ _ hsucceed => endsOnlyForCalls_iff hsucceed⟩

/-- A process that gives itself a name of 251 bytes. -/
def longName : Bytes := List.replicate 251 0x62

/-- It ends the program. -/
theorem endsOnlyForCalls_longName : ¬ ∀ (format : OutputFormat) (calls : StartCalls)
    (its : List Iteration) (s₀ : MainState), (start calls).result = .ok s₀ →
    ∀ config calls p, MonitorCall format s₀ its config calls p → EndsOnlyForCalls config calls p := by
  intro h
  obtain ⟨s₀, hs₀, hcount, hname, hpid, -⟩ := start_oneProcess
  have hturn := forall_monitorCall_iff.mp
    (h .json _ [⟨none, quietRound (oneProcess longName) 1⟩] s₀ hs₀) _ List.mem_cons_self s₀ rfl
  rw [hcount] at hturn
  have hends := hturn (s₀, 0) List.mem_cons_self
  have hsucceed : ((quietRound (oneProcess longName) 1).processes 0).Succeed :=
    ⟨rfl, rfl, rfl, nofun⟩
  have hfit := (endsOnlyForCalls_iff hsucceed).mp hends
  have hpid' : pidInRound ((quietRound (oneProcess longName) 1).processes 0) (s₀.processes 0) =
      7 := by
    rw [pidInRound, if_neg fun h => absurd (hpid ▸ h.2) (by decide), hpid]
  have hshown : ((readProcessInfo (oneProcess longName) 7).map fun info => info.name.bytes.length) =
      some 251 := by decide +kernel
  rw [Option.map_eq_some_iff] at hshown
  obtain ⟨info, hread, hlength⟩ := hshown
  have htarget := hfit.target info (hpid'.symm ▸ hread)
  rw [hlength, hpid'] at htarget
  revert htarget
  decide

end EdgeSentinel.Monitor
