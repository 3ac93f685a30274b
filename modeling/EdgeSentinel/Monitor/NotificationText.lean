import EdgeSentinel.Encoding.LineFormat
import EdgeSentinel.Encoding.Reading
import EdgeSentinel.Monitor.LogOfRun
import EdgeSentinel.Monitor.NotifierChild
import EdgeSentinel.Monitor.Sends

/-!
# The text of a notification

A change of a level is written to the standard input of a program, on one line. The line is all
that the program knows of it, and it may come in pieces, or not to its end.

## The model

* `AlertReading` — what a reader is to see of an alert.
* `alertLines`, `readAlertLine` — the line of an alert, and its reader. A target can have anything
  in it, so what stands behind it is read from the end.

## What is proved

* `notifierFormatMessage_eq` — a message is the line of its alert.
* `legible_alertLines` — **a line is read back**, if its target is on one line and its value is a
  number.
* `daemon_legible` — **a run** notifies nothing else.
* `notification_readBack` — what the program reads from its standard input in a run is read as the
  alert, or as nothing; and if `notifier_send` returns 0, as the alert exactly if the daemon has a
  standard input.
-/

namespace EdgeSentinel.Monitor

open CLib Config Encoding Trace Trace.Traced

/-! ### The line -/

/-- What a reader sees of an alert. -/
structure AlertReading where
  /-- Which level changed. -/
  metric : AlertMetric
  /-- Whose level. -/
  target : Bytes
  /-- The level before. -/
  previousLevel : AlertLevel
  /-- The level after. -/
  currentLevel : AlertLevel
  /-- The value that was graded, as it is printed; there is none if it is not finite. -/
  currentValue : Option ℚ
  /-- Its unit. -/
  unit : Bytes
  /-- The time. -/
  timeText : Bytes
  deriving DecidableEq, Repr

/-- The names of the metrics. -/
def metricWords : List (Bytes × AlertMetric) :=
  [.systemCpu, .systemMemory, .disk, .processCpu, .processMemory].map
    fun metric => (alertMetricToString metric, metric)

/-- The levels before and behind a change. -/
def readLevels (s : Bytes) : Option (AlertLevel × AlertLevel) := do
  let (previousLevel, s) ← readWord levelWords s
  let (currentLevel, s) ← readWord levelWords (← scanLiteral (ascii "->") s)
  if s = [] then some (previousLevel, currentLevel) else none

/-- The reader of a line. -/
def readAlertLine (s : Bytes) : Option AlertReading := do
  let (metric, s) ← readWord metricWords (← scanLiteral (ascii "[EdgeSentinel] ") s)
  let s ← scanLiteral (ascii " target=") s
  let (s, timeText) ← readLast (ascii " time") 0x3d s
  let (s, value) ← readLast (ascii " value") 0x3d s
  let (target, levels) ← readLast (ascii " status") 0x3d s
  let (previousLevel, currentLevel) ← readLevels levels
  let (currentValue, unit) ← readNumber value
  some ⟨metric, target, previousLevel, currentLevel, some currentValue, unit, timeText⟩

/-- An alert with the text of its time, on a line. -/
def alertLines : LineFormat (Bytes × AlertEvent) AlertReading where
  write := fun e => ascii "[EdgeSentinel] " ++ alertMetricToString e.2.metric ++
    ascii " target=" ++ e.2.target ++ ascii " status=" ++ alertLevelToString e.2.previousLevel ++
    ascii "->" ++ alertLevelToString e.2.currentLevel ++ ascii " value=" ++
    fixed2 e.2.currentValue ++ e.2.unit ++ ascii " time=" ++ e.1
  view := fun e => ⟨e.2.metric, e.2.target, e.2.previousLevel, e.2.currentLevel,
    e.2.currentValue.value?.map round2, e.2.unit, e.1⟩
  read := readAlertLine

/-- A message is the line of its alert. -/
theorem notifierFormatMessage_eq {timeText : Option Bytes} {event : AlertEvent} {size : ℕ}
    {message : Bytes} (h : notifierFormatMessage timeText event size = some message) :
    ∃ time, timeText = some time ∧ message = alertLines.write (time, event) := by
  unfold notifierFormatMessage at h
  split_ifs at h
  cases timeText with
  | none => cases h
  | some time =>
    dsimp only at h
    split_ifs at h
    exact ⟨time, rfl, (Option.some.inj h).symm⟩

/-! ### Reading back -/

/-- The units of the alerts. -/
def IsUnit (unit : Bytes) : Prop := unit = ascii "%" ∨ unit = ascii "MiB"

/-- A change of which a reader can see everything. -/
structure AlertChange.Legible (change : AlertChange) : Prop where
  /-- The target is on one line. -/
  target : newline ∉ change.target
  /-- The unit is one. -/
  unit : IsUnit change.unit
  /-- The value is a number. -/
  value : ∃ q, change.currentValue = .finite q

theorem readWord_metricWords (metric : AlertMetric) (t : Bytes) :
    readWord metricWords (alertMetricToString metric ++ t) = some (metric, t) := by
  cases metric <;> rfl

theorem readLevels_levels (previous level : AlertLevel) :
    readLevels (alertLevelToString previous ++ (ascii "->" ++ alertLevelToString level)) =
      some (previous, level) := by
  have hlevel := readWord_levelWords level []
  rw [List.append_nil] at hlevel
  simp only [readLevels, readWord_levelWords, hlevel, Json.scanLiteral_append, Option.bind_eq_bind,
    Option.bind_some, if_true]

/-- What stands behind the labels does not hide them. -/
theorem not_mem_levels (previous level : AlertLevel) :
    0x3d ∉ alertLevelToString previous ++ (ascii "->" ++ alertLevelToString level) := by
  cases previous <;> cases level <;> decide

theorem IsUnit.head? {unit : Bytes} (h : IsUnit unit) :
    unit.head?.any (fun b => ! Json.isNumberByte b) = true := by
  rcases h with rfl | rfl <;> decide

theorem IsUnit.not_mem {unit : Bytes} (h : IsUnit unit) : 0x3d ∉ unit ∧ newline ∉ unit := by
  rcases h with rfl | rfl <;> decide

/-- **A line is read back**, and it is one line. -/
theorem legible_alertLines {timeText : Bytes} {event : AlertEvent}
    (hnewline : newline ∉ timeText) (hequals : 0x3d ∉ timeText) (h : event.Legible) :
    alertLines.Legible (timeText, event) := by
  obtain ⟨⟨metric, target, previous, level, value, unit⟩, occurredAt⟩ := event
  obtain ⟨htarget, hunit, q, rfl⟩ := h
  obtain ⟨hnot, hnotNewline⟩ := hunit.not_mem
  constructor
  · have hvalue := (readNumber_lastWord unit hunit.head?).2 q
    have htext : 0x3d ∉ fixed2 (.finite q) ++ unit := by
      have hnumber := (not_mem_number (b := 0x3d) rfl).2.2
      simp [hnumber, hnot]
    have htime := fun s => readLast_append (ascii " time") hequals s
    have hlast := fun s => readLast_append (ascii " value") htext s
    have hstatus := fun s => readLast_append (ascii " status")
      (not_mem_levels previous level) s
    have hlabels : ∀ t, target ++ (ascii " status=" ++ (alertLevelToString previous ++
        (ascii "->" ++ (alertLevelToString level ++ (ascii " value=" ++ (fixed2 (.finite q) ++
          (unit ++ (ascii " time=" ++ t)))))))) =
        ((target ++ (ascii " status" ++ 0x3d :: (alertLevelToString previous ++ (ascii "->" ++
          alertLevelToString level)))) ++ (ascii " value" ++ 0x3d :: (fixed2 (.finite q) ++
            unit))) ++ (ascii " time" ++ 0x3d :: t) := by
      intro t
      simp only [List.append_assoc, List.cons_append]
      rfl
    show readAlertLine _ = some ⟨metric, target, previous, level, some (round2 q), unit, timeText⟩
    simp only [alertLines, List.append_assoc, readAlertLine, readWord_metricWords,
      Json.scanLiteral_append, Option.bind_eq_bind, Option.bind_some]
    -- from here on it is read from the end
    rw [hlabels]
    simp only [htime, hlast, hstatus, readLevels_levels, hvalue, Option.bind_some]
  · have hnumber := (not_mem_number (b := newline) rfl).2.2
    have hlevel : ∀ level, newline ∉ alertLevelToString level := by
      intro level
      cases level <;> decide
    have hmetric : newline ∉ alertMetricToString metric := by cases metric <;> decide
    simp [alertLines, hnewline, htarget, hnotNewline, hnumber, hlevel, hmetric]
    decide

/-! ### What a run notifies -/

/-- An action that, if it notifies a change, notifies one of which a reader can see everything. -/
def Action.NotifiesLegibly : Action → Prop
  | .alertChanged change => change.Legible
  | _ => True

section Process

variable {config : AppConfig} {calls : ProcessCalls} {p p' : MonitoredProcess}

/-- A target is on one line if the name of its process is. -/
theorem newline_not_mem_notificationTarget (h : newline ∉ p.info.name.bytes) :
    newline ∉ notificationTarget p := by
  have hpid := (not_mem_number (b := newline) rfl).2.1
  have hname : newline ∉ if p.info.name.bytes ≠ [] then p.info.name.bytes
      else ascii "process" := by
    split_ifs
    · exact h
    · decide
  have htext : newline ∉ ascii " PID=" := by decide
  simp only [notificationTarget, List.mem_append, hname, htext, hpid, or_false, not_false_eq_true]

theorem gradeMemory_legible (h : newline ∉ p.info.name.bytes) :
    (gradeMemory config calls p).Emits Action.NotifiesLegibly :=
  gradeMemory_emits_of (fun _ _ => trivial) (fun _ _ _ => trivial)
    (fun _ _ _ => ⟨newline_not_mem_notificationTarget h, .inr rfl, _, rfl⟩) fun _ _ => trivial

theorem compareCpuSamples_legible (h : newline ∉ p.info.name.bytes) (times : ProcessCpuTimes)
    (time : Timespec) :
    (compareCpuSamples config calls times time p).Emits Action.NotifiesLegibly := by
  obtain ⟨q, husage, -⟩ := calculateProcessCpuUsage_eq calls.ticksPerSecond p.previousCpuTimes
    times p.previousCpuSampleTime time
  refine compareCpuSamples_emits_of (fun _ _ _ _ => trivial) (gradeProcessCpu_emits_of
    (fun _ _ => trivial) (fun _ _ _ => trivial) (fun _ _ => ?_) fun _ _ => trivial)
  exact ⟨newline_not_mem_notificationTarget h, .inl rfl, q, husage⟩

/-- **A process in a round** notifies nothing else: its name has just been read. -/
theorem monitorProcessOnce_legible (config : AppConfig) (calls : ProcessCalls)
    (p : MonitoredProcess) :
    (monitorProcessOnce config calls p).Emits Action.NotifiesLegibly := by
  refine .bind ((lookUpProcess_emits calls p).mono ?_) fun p₁ _ => ?_
  · rintro _ ⟨pid, rfl⟩
    trivial
  refine .bind ?_ fun p₂ hp₂ => ?_
  · unfold readProcess
    split
    · exact .emit_bind trivial .pure
    · next info hinfo =>
      exact .emit_bind trivial (gradeMemory_legible (oneLine_readProcessInfo hinfo).1)
  have hname : p₂.available = true → newline ∉ p₂.info.name.bytes := by
    intro havailable
    obtain ⟨-, -, hread, hinfo, -⟩ := (readProcess_yields config calls p₁).ok _ hp₂
    rw [havailable] at hread
    obtain ⟨info, hsome⟩ := Option.isSome_iff_exists.mp hread.symm
    rw [hinfo info hsome]
    exact (oneLine_readProcessInfo hsome).1
  refine .bind (monitorProcessCpu_emits_of (fun _ => trivial) (fun _ _ _ => trivial)
    fun havailable times time => compareCpuSamples_legible
      (p := { p₂ with cpuUsageValid := false }) (hname havailable) times time) fun p₃ _ => ?_
  exact .bind (watchAvailability_emits (fun _ _ _ => trivial) _ _ _) fun _ _ =>
    .emit_bind trivial .pure

end Process

theorem gradePercentage_legible {config : AppConfig} {now : ℤ} {metric : AlertMetric}
    {target : Bytes} {percent warning critical : Double} {baseline : LevelBaseline}
    (htarget : newline ∉ target) (hpercent : ∃ q, percent = .finite q) :
    (gradePercentage config now metric target percent warning critical baseline).Emits
      Action.NotifiesLegibly :=
  gradePercentage_emits (fun _ => trivial) (fun _ _ => ⟨htarget, .inl rfl, hpercent⟩)
    fun _ _ => trivial

/-- **The system part of a round** notifies nothing else. -/
theorem monitorSystem_legible (format : OutputFormat) (calls : RoundCalls) (s : MainState) :
    (monitorSystem format calls s).Emits Action.NotifiesLegibly := by
  refine .bind (.orStop_bind fun currentCpu => .check_bind (.bind ?_ fun _ _ => .pure))
    fun r₁ _ => ?_
  · obtain ⟨q, hq, -⟩ := calculateCpuUsage_bounded s.previousCpu currentCpu
    exact gradePercentage_legible (by decide) ⟨q, hq⟩
  refine .bind (sampleNetwork_emits (fun _ _ _ => trivial) (fun _ _ _ => trivial) _ _)
    fun r₂ _ => ?_
  refine .bind (.bind .orStop fun memory hmemory => .bind ?_ fun _ _ => .pure) fun r₃ _ => ?_
  · obtain ⟨q, hq, -⟩ := getMemoryInfo_usagePercent (result_orStop_ok.mp hmemory)
    exact gradePercentage_legible (by decide) ⟨q, hq⟩
  refine .bind (.bind .orStop fun disk hdisk => .bind ?_ fun _ _ => .pure) fun r₄ _ => ?_
  · obtain ⟨q, hq, -⟩ := getDiskInfo_usagePercent (result_orStop_ok.mp hdisk)
    exact gradePercentage_legible (by decide) ⟨q, hq⟩
  refine .bind (watchSystemLevel_emits (fun _ _ _ => trivial) calls _ _ _) fun _ _ => ?_
  refine .bind (writePeriodicLog_emits (fun _ _ _ => trivial) calls _ _ _) fun _ _ => ?_
  exact .orStop_bind fun _ => .orStop_bind fun _ => .orStop_bind fun _ => .emit_bind trivial .pure

/-- **A turn of the loop** notifies nothing else. -/
theorem iteration_legible (format : OutputFormat) (s : MainState) (it : Iteration) :
    (iteration format s it).Emits fun e => e.action.NotifiesLegibly := by
  refine .bind ?_ fun s₁ _ => .bind (.run (fun s i => ?_) _ _) fun s₂ _ => ?_
  · refine (reloadIfRequested_emits _ _).mono fun e he => ?_
    rcases e with ⟨source, action⟩
    cases action <;> first | trivial | exact he.2.elim
  · exact .bind (.rename (monitorProcessOnce_legible _ _ _)) fun _ _ => .pure
  · exact .bind (.rename (monitorSystem_legible format it.round s₂)) fun _ _ => .pure

/-- An event that is sent in a turn is one of which a reader can see everything. -/
theorem legible_of_sent {format : OutputFormat} {calls : StartCalls} {its : List Iteration}
    {source : Source} {event : AlertEvent} {command : Bytes}
    (h : ⟨source, .notifierSend event command⟩ ∈ (daemon format calls its).events) :
    event.Legible := by
  rcases mem_events_bind.mp h with hstart | ⟨s₀, hs₀, hrun⟩
  · -- the start sends nothing
    have hnone : (start calls).Emits fun e => e.action.sent? = none := by
      refine .bind (setUpProcesses_emits _ _ _ _ _) fun s₁ hs₁ => .check_bind ?_
      refine .orStop_bind fun previousCpu => .orStop_bind fun previousNetwork =>
        .orStop_bind fun previousNetworkTime => .check_bind ?_
      exact .emit_bind rfl (.check_bind (.emit_bind rfl .pure))
    cases hnone _ hstart
  · obtain ⟨c, hc, hmem⟩ := mem_events_run.mp hrun
    have hturn := iteration_legible format c.1 c.2
    -- what is sent is delivered of a change of the same turn
    rcases hreload : (reloadIfRequested c.2.reload c.1).result with reason | s₁
    · rw [iteration, bind_of_error hreload] at hmem
      have hquiet := (reloadIfRequested_emits c.2.reload c.1) _ hmem
      exact hquiet.2.elim
    · have hsent : (source, event, command) ∈ (iteration format c.1 c.2).shown Event.sent? :=
        List.mem_filterMap.mpr ⟨_, hmem, rfl⟩
      rw [iteration_delivers hreload] at hsent
      obtain ⟨⟨source', change⟩, hchange, hdelivered⟩ := List.mem_filterMap.mp hsent
      obtain ⟨e, he, hview⟩ := List.mem_filterMap.mp hchange
      rcases e with ⟨source'', action⟩
      cases action with
      | alertChanged change' =>
        have hlegible : change'.Legible := hturn _ he
        obtain ⟨-, rfl⟩ := Prod.mk.inj (Option.some.inj hview)
        unfold roundDelivery delivery at hdelivered
        split_ifs at hdelivered
        · obtain ⟨-, hevent⟩ := Prod.mk.inj (Option.some.inj hdelivered)
          rw [← (Prod.mk.inj hevent).1]
          exact hlegible
        · cases hdelivered
      | _ => cases hview

/-! ### What is received -/

/-- Calls of which none is `write` hand nothing over. -/
theorem accepted_of_emits {α : Type} {x : Traced NotifierCall Waiting α}
    (h : x.Emits fun e => ∀ bytes, e ≠ .write bytes) : accepted x.events = [] := by
  refine List.flatMap_eq_nil_iff.mpr fun e he => ?_
  cases e with
  | write bytes => exact absurd rfl (h _ he bytes)
  | _ => rfl

/-- `wait_for_child` emits nothing, whether it returns or not. -/
theorem waitForChild_emits {P : NotifierCall → Prop} (results : List WaitResult) :
    (waitForChild results).Emits P := by
  fun_induction waitForChild results with
  | case1 => exact .stop
  | case2 results ih => exact ih
  | case3 => exact .pure
  | case4 => exact .pure

/-- **What the pipe has accepted** of a notification is the beginning of its line, whether the call
has returned or not. -/
theorem accepted_notifierSend_prefix {calls : NotifierCalls} {timeText : Bytes}
    (htime : calls.timeText = some timeText) (event : AlertEvent) (command : Bytes)
    (sigpipe : SigAction) :
    accepted (notifierSend calls event command sigpipe).events <+:
      alertLines.stream [(timeText, event)] := by
  have hnone : ∀ {x : Traced NotifierCall Waiting (Bool × SigAction)},
      (x.Emits fun e => ∀ bytes, e ≠ .write bytes) →
      accepted x.events <+: alertLines.stream [(timeText, event)] := by
    intro x hx
    rw [accepted_of_emits hx]
    exact List.nil_prefix
  unfold notifierSend
  by_cases hcommand : command = []
  · rw [if_pos hcommand]
    exact hnone .pure
  rw [if_neg hcommand]
  cases hmessage : notifierFormatMessage calls.timeText event notifierMessageLength with
  | none => exact hnone .pure
  | some message =>
    obtain ⟨time, hsome, rfl⟩ := notifierFormatMessage_eq hmessage
    obtain rfl := Option.some.inj (htime.symm.trans hsome)
    dsimp only
    by_cases hpipe : calls.pipe = true
    swap
    · rw [if_pos hpipe]
      exact hnone (.emit_bind (by simp) .pure)
    by_cases hfork : calls.fork = true
    swap
    · rw [if_neg (not_not.mpr hpipe), if_pos hfork]
      refine hnone (.emit_bind (by simp) (.emit_bind (by simp) (.emit_bind (by simp) ?_)))
      exact .emit_bind (by simp) .pure
    by_cases hignore : calls.ignoreSigpipe = true
    swap
    · rw [if_neg (not_not.mpr hpipe), if_neg (not_not.mpr hfork), if_pos hignore]
      refine hnone (.emit_bind (by simp) (.emit_bind (by simp) (.emit_bind (by simp) ?_)))
      refine .emit_bind (by simp) (.emit_bind (by simp) (.emit_bind (by simp) ?_))
      exact .bind (waitForChild_emits _) fun _ _ => .pure
    rw [if_neg (not_not.mpr hpipe), if_neg (not_not.mpr hfork), if_neg (not_not.mpr hignore)]
    -- the message is written, and nothing behind it
    have hwritten := accepted_writeMessage_prefix (alertLines.write (timeText, event)) calls.writes
    have hstream : alertLines.stream [(timeText, event)] =
        alertLines.write (timeText, event) ++ [newline] := by
      simp [LineFormat.stream, LineFormat.line]
    rw [hstream]
    simp only [events_emit_bind]
    show accepted (writeMessage _ _ >>= _).events <+: _
    rcases hsent : (writeMessage (alertLines.write (timeText, event)) calls.writes).result with
      waiting | sent
    · rwa [bind_of_error hsent]
    · rw [events_bind hsent, accepted_append, accepted_of_emits (α := Bool × SigAction),
        List.append_nil]
      · exact hwritten
      · exact .emit_bind (by simp) (.emit_bind (by simp) (.emit_bind (by simp)
          (.bind (waitForChild_emits _) fun _ _ => .pure)))

/-- A call that returns 0 has handed over the whole line, and the child has exited with 0. -/
theorem accepted_of_path {calls : NotifierCalls} {timeText : Bytes}
    (htime : calls.timeText = some timeText) {event : AlertEvent} {command : Bytes}
    {sigpipe sigpipe' : SigAction} {returned : Bool} {events : List NotifierCall}
    (h : NotifierPath calls event command sigpipe returned sigpipe' events)
    (hreturned : returned = true) : accepted events = alertLines.stream [(timeText, event)] ∧
      childStatus calls.waits = some (.exited 0) := by
  cases h with
  | @written message sent rest hmessage hfork hignore hsent =>
    obtain ⟨time, hsome, rfl⟩ := notifierFormatMessage_eq hmessage
    obtain rfl := Option.some.inj (htime.symm.trans hsome)
    obtain ⟨hsend, hstatus⟩ := notifierResult_iff.mp hreturned
    simp only [Bool.and_eq_true] at hsend
    have hall := (writeMessage_sent hsent).mp hsend.1.1
    refine ⟨?_, hstatus⟩
    rw [accepted_append, accepted_append, hall]
    simp [accepted, LineFormat.stream, LineFormat.line]
  | _ => cases hreturned

/-- **What the program reads** of a notification of a run, where it is executed and reads its
standard input to the end, is its alert, or nothing, however the pipe takes the line and wherever
it ends, and whatever descriptors the daemon has. If `notifier_send` returns 0, it is the alert
exactly if the daemon has a standard input; where it has none the program finds none either. The
text of the time is what `strftime` makes of `%Y-%m-%d %H:%M:%S`, as far as a reader needs it. -/
theorem notification_readBack {α : Type} (format : OutputFormat) (calls : StartCalls)
    (its : List Iteration) (source : Source) (event : AlertEvent) (command : Bytes)
    (h : ⟨source, .notifierSend event command⟩ ∈ (daemon format calls its).events)
    (answers : NotifierCalls) (timeText : Bytes) (htime : answers.timeText = some timeText)
    (hnewline : newline ∉ timeText) (hequals : 0x3d ∉ timeText) (sigpipe : SigAction)
    (c : ChildRun α) (htold : c.StatusTold answers.waits) :
    (alertLines.readStream (c.reads (accepted
        (notifierSend answers event command sigpipe).events)) = some [] ∨
      alertLines.readStream (c.reads (accepted
        (notifierSend answers event command sigpipe).events)) =
          some [alertLines.view (timeText, event)]) ∧
    ∀ sigpipe', (notifierSend answers event command sigpipe).result = .ok (true, sigpipe') →
      (alertLines.readStream (c.reads (accepted
        (notifierSend answers event command sigpipe).events)) =
          some [alertLines.view (timeText, event)] ↔
        c.descriptors.file stdinFileno ≠ none) := by
  have hlegible : ∀ e ∈ [(timeText, event)], alertLines.Legible e := by
    intro e he
    rw [List.mem_singleton.mp he]
    exact legible_alertLines hnewline hequals (legible_of_sent h)
  have hbegins := accepted_notifierSend_prefix htime event command sigpipe
  have hnothing : alertLines.readStream [] = some [] :=
    LineFormat.readStream_stream (f := alertLines) (fun e he => absurd he List.not_mem_nil)
  rw [ChildRun.reads_eq]
  constructor
  · split_ifs
    · exact .inl hnothing
    obtain ⟨whole, hwhole, hread⟩ := LineFormat.readStream_prefix hlegible hbegins
    rw [hread]
    rcases List.prefix_cons_iff.mp hwhole with rfl | ⟨rest, rfl, hrest⟩
    · exact .inl rfl
    · rw [List.prefix_nil.mp hrest]
      exact .inr rfl
  · intro sigpipe' hresult
    obtain ⟨haccepted, hzero⟩ := accepted_of_path htime (notifierSend_ok hresult) rfl
    have hprogram := ChildRun.program_ne_none htold hzero
    by_cases hstdin : c.descriptors.file stdinFileno = none
    · rw [if_pos (.inr hstdin), hnothing]
      exact iff_of_false (by simp) fun hne => hne hstdin
    · rw [if_neg (not_or.mpr ⟨hprogram, hstdin⟩), haccepted]
      exact iff_of_true (LineFormat.readStream_stream hlegible) hstdin

/-- A line in three pieces, with an interruption. -/
def piecewiseCalls : NotifierCalls :=
  { interruptedCalls with writes := [.wrote 7, .interrupted, .wrote 98, .wrote 1] }

/-- A daemon with a standard input, whose notification command can be executed. -/
def executedChild : ChildRun ℕ where
  descriptors := Descriptors.empty.set stdinFileno (some 0)
  dup2Succeeds := true
  execlSucceeds := true

/-- That the memory is used up is received. -/
theorem notification_readBack_exhausted :
    alertLines.readStream (executedChild.reads (accepted
      (notifierSend piecewiseCalls ⟨memoryUsedUp, 0⟩ (ascii "n") ⟨.default, 0, 0⟩).events)) =
      some [⟨.systemMemory, ascii "system", .normal, .critical, some 100, ascii "%",
        ascii "2026-08-03 17:20:30"⟩] := by
  have hrun : ⟨.system, .notifierSend ⟨memoryUsedUp, 0⟩ (ascii "n")⟩ ∈
      (daemon .json notifyingStart exhaustingRounds).events := by decide +kernel
  have hview : alertLines.view (ascii "2026-08-03 17:20:30", ⟨memoryUsedUp, 0⟩) =
      ⟨.systemMemory, ascii "system", .normal, .critical, some 100, ascii "%",
        ascii "2026-08-03 17:20:30"⟩ := by decide +kernel
  have htold : executedChild.StatusTold piecewiseCalls.waits := by
    intro status told hexits
    rw [show executedChild.exitStatus = none by decide] at hexits
    cases hexits
  rw [← hview]
  exact ((notification_readBack .json notifyingStart exhaustingRounds .system ⟨memoryUsedUp, 0⟩
    (ascii "n") hrun piecewiseCalls _ rfl (by decide) (by decide) ⟨.default, 0, 0⟩ executedChild
    htold).2 ⟨.default, 0, 0⟩ (by decide +kernel)).mpr (by decide)

end EdgeSentinel.Monitor
