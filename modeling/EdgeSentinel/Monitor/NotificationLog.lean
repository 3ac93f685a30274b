import EdgeSentinel.Monitor.NotificationText

/-!
# The notification log

The notification command that comes with the program, `notify-log.sh`, appends what it reads from
its standard input to a file. So the file has one line for each change of a level, as far as the
notifications get there.

## The model

* `ScriptCalls`, `notifyLog` — the script, which may stop in front of its `cat`, or within it.
* `Sending` — a call of `notifier_send`, with what the operating system answers to it, to its
  child and to the script.
* `notificationLog` — the file, behind some of them.

## What is proved

* `appended_prefix` — what the script appends is the beginning of the line.
* `logged_of_returnsZero` — a call that returns 0 has its line in the file.
* `notificationLog_lines` — **behind a run**, the file has exactly one line for each notification
  that was appended whole, in order, and it ends with that notification; a call that returns 0 is
  one of them. If none was cut off, the file is read as these alerts, behind the older ones.
-/

namespace EdgeSentinel.Monitor

open CLib Config Encoding Trace Trace.Traced

/-! ### The script -/

/-- What the commands of `notify-log.sh` come to. -/
structure ScriptCalls where
  /-- `cd`, `pwd` and `dirname` succeed. -/
  directories : Bool
  /-- `mkdir -p` succeeds. -/
  mkdir : Bool
  /-- The file can be opened to append to it. -/
  opens : Bool
  /-- Behind how many bytes `cat` breaks off, if it does. -/
  breaksOff : Option ℕ
  deriving DecidableEq, Repr

/-- `notify-log.sh`, with its standard input, if it has one: whether it exits with 0, and what it
appends to the file. With `set -e` it stops at the first command that fails. -/
def notifyLog (calls : ScriptCalls) (stdin : Option Bytes) : Bool × Bytes :=
  if ¬ calls.directories then (false, [])
  else if ¬ calls.mkdir then (false, [])
  else if ¬ calls.opens then (false, [])
  else
    match stdin with
    | none => (false, [])
    | some input =>
      match calls.breaksOff with
      | some n => (false, input.take n)
      | none => (true, input)

/-! ### A notification -/

/-- A call of `notifier_send` for this script, with the answers of the operating system. The text
of the time is what `strftime` makes of `%Y-%m-%d %H:%M:%S`, as far as a reader needs it. -/
structure Sending (α : Type) where
  /-- The event. -/
  event : AlertEvent
  /-- The command. -/
  command : Bytes
  /-- The answers. -/
  answers : NotifierCalls
  /-- The disposition of `SIGPIPE`. -/
  sigpipe : SigAction
  /-- The child, up to the script. -/
  child : ChildRun α
  /-- The script, if it is executed. -/
  script : ScriptCalls
  /-- The text of the time. -/
  timeText : Bytes
  time_ok : answers.timeText = some timeText
  newline_not_mem : newline ∉ timeText
  equals_not_mem : 0x3d ∉ timeText

namespace Sending

variable {α : Type}

/-- The alert, with the text of its time. -/
def alert (x : Sending α) : Bytes × AlertEvent := (x.timeText, x.event)

/-- What is handed over to the pipe. -/
def handedOver (x : Sending α) : Bytes :=
  accepted (notifierSend x.answers x.event x.command x.sigpipe).events

/-- What becomes of the script: whether it exits with 0, and what it appends. -/
def scriptRun (x : Sending α) : Bool × Bytes :=
  match x.child.program with
  | none => (false, [])
  | some t => notifyLog x.script (standardInput t x.handedOver)

/-- What is appended to the file. -/
def appended (x : Sending α) : Bytes := x.scriptRun.2

/-- `notifier_send` returns 0. -/
def ReturnsZero (x : Sending α) : Prop :=
  ∃ sigpipe, (notifierSend x.answers x.event x.command x.sigpipe).result = .ok (true, sigpipe)

/-- The notification was appended whole. -/
def Logged (x : Sending α) : Prop := x.appended = alertLines.line x.alert

instance (x : Sending α) : Decidable x.Logged := inferInstanceAs (Decidable (_ = _))

/-- `waitpid` tells that the child has exited with 0 only if the script has done so. -/
def StatusTold (x : Sending α) : Prop :=
  childStatus x.answers.waits = some (.exited 0) → x.scriptRun.1 = true

/-- Nothing goes wrong behind the pipe: the script is executed, the daemon has a standard input to
pass on, and no command of the script fails. -/
structure Undisturbed (x : Sending α) : Prop where
  /-- The script is executed. -/
  program : x.child.program ≠ none
  /-- The daemon has a standard input. -/
  stdin : x.child.descriptors.file stdinFileno ≠ none
  /-- The directories are found. -/
  directories : x.script.directories = true
  /-- The directory of the file is there. -/
  mkdir : x.script.mkdir = true
  /-- The file can be opened. -/
  opens : x.script.opens = true
  /-- `cat` comes to its end. -/
  copies : x.script.breaksOff = none

end Sending

variable {α : Type} {x : Sending α} {sends : List (Sending α)} {old : List (Bytes × AlertEvent)}

/-- The file behind some calls of `notifier_send`. -/
def notificationLog (log : Bytes) (sends : List (Sending α)) : Bytes :=
  sends.foldl (fun log x => log ++ x.appended) log

/-- The alerts that were appended whole. -/
def loggedAlerts (sends : List (Sending α)) : List (Bytes × AlertEvent) :=
  (sends.filter fun x => x.Logged).map Sending.alert

/-! ### The file -/

theorem notificationLog_eq (log : Bytes) (sends : List (Sending α)) :
    notificationLog log sends = log ++ sends.flatMap Sending.appended := by
  induction sends generalizing log with
  | nil => exact (List.append_nil log).symm
  | cons x sends ih =>
    rw [notificationLog, List.foldl_cons, List.flatMap_cons, ← List.append_assoc]
    exact ih (log ++ x.appended)

/-- What each call is to append, and what it does. The lines that are there already are whole. -/
def linePieces (old : List (Bytes × AlertEvent)) (sends : List (Sending α)) :
    List ((Bytes × AlertEvent) × Bytes) :=
  (old.map fun a => (a, alertLines.line a)) ++ sends.map fun x => (x.alert, x.appended)

theorem flatMap_linePieces (old : List (Bytes × AlertEvent)) (sends : List (Sending α)) :
    (linePieces old sends).flatMap Prod.snd = notificationLog (alertLines.stream old) sends := by
  rw [notificationLog_eq, linePieces, List.flatMap_append, List.flatMap_map, List.flatMap_map]
  rfl

theorem wholeRecords_linePieces (old : List (Bytes × AlertEvent)) (sends : List (Sending α)) :
    alertLines.wholeRecords (linePieces old sends) = old ++ loggedAlerts sends := by
  have hold : alertLines.wholeRecords (old.map fun a => (a, alertLines.line a)) = old := by
    induction old with
    | nil => rfl
    | cons a old ih => rw [List.map_cons, LineFormat.wholeRecords_cons_whole, ih]
  rw [linePieces, LineFormat.wholeRecords_append, hold, LineFormat.wholeRecords, List.filter_map,
    List.map_map]
  rfl

/-! ### What is appended -/

/-- The script appends the beginning of its input, and all of it if it exits with 0. -/
theorem notifyLog_spec (calls : ScriptCalls) (stdin : Option Bytes) :
    (notifyLog calls stdin).2 <+: stdin.getD [] ∧
      ((notifyLog calls stdin).1 = true → stdin = some (notifyLog calls stdin).2) := by
  have hstops : ([] : Bytes) <+: stdin.getD [] ∧ (false = true → stdin = some []) :=
    ⟨List.nil_prefix, fun h => absurd h Bool.false_ne_true⟩
  unfold notifyLog
  split
  · exact hstops
  split
  · exact hstops
  split
  · exact hstops
  cases stdin with
  | none => exact hstops
  | some input =>
    cases calls.breaksOff with
    | some n => exact ⟨List.take_prefix n input, fun h => absurd h Bool.false_ne_true⟩
    | none => exact ⟨List.prefix_rfl, fun _ => rfl⟩

/-- What a call hands over is the beginning of its line. -/
theorem handedOver_prefix (x : Sending α) : x.handedOver <+: alertLines.line x.alert := by
  have hbegins := accepted_notifierSend_prefix x.time_ok x.event x.command x.sigpipe
  rwa [LineFormat.stream, List.flatMap_singleton] at hbegins

/-- So is what the script appends. -/
theorem appended_prefix (x : Sending α) : x.appended <+: alertLines.line x.alert := by
  unfold Sending.appended Sending.scriptRun
  cases hprogram : x.child.program with
  | none => exact List.nil_prefix
  | some t =>
    refine (notifyLog_spec _ _).1.trans ?_
    rw [ChildRun.standardInput_program hprogram]
    split_ifs
    · exact List.nil_prefix
    · exact handedOver_prefix x

/-- A script that exits with 0 has appended all that was handed over. -/
theorem appended_of_exitsZero (h : x.scriptRun.1 = true) : x.appended = x.handedOver := by
  unfold Sending.appended
  unfold Sending.scriptRun at h ⊢
  cases hprogram : x.child.program with
  | none =>
    rw [hprogram] at h
    cases h
  | some t =>
    rw [hprogram] at h
    have hall := (notifyLog_spec _ _).2 h
    have hinput := ChildRun.standardInput_program hprogram x.handedOver
    split_ifs at hinput
    · rw [hinput] at hall
      cases hall
    · exact Option.some.inj (hall.symm.trans hinput)

/-- So it has where nothing goes wrong behind the pipe. -/
theorem appended_of_undisturbed (h : x.Undisturbed) : x.appended = x.handedOver := by
  refine appended_of_exitsZero ?_
  obtain ⟨t, ht⟩ := Option.ne_none_iff_exists'.mp h.program
  rw [Sending.scriptRun, ht]
  dsimp only
  rw [ChildRun.standardInput_program ht, if_neg h.stdin, notifyLog, h.directories, h.mkdir, h.opens,
    h.copies]
  rfl

/-- A call that returns 0 has its line in the file. -/
theorem logged_of_returnsZero (htold : x.StatusTold) (h : x.ReturnsZero) : x.Logged := by
  obtain ⟨sigpipe, hresult⟩ := h
  obtain ⟨haccepted, hzero⟩ := accepted_of_path x.time_ok (notifierSend_ok hresult) rfl
  rw [LineFormat.stream, List.flatMap_singleton] at haccepted
  exact (appended_of_exitsZero (htold hzero)).trans haccepted

/-- **The notification log behind a run.** Whatever becomes of each call of `notifier_send`, of its
child and of the script, the file has exactly one line more for each notification that was appended
whole, in their order, and the line ends with that notification: none is torn or written twice. A
call that returns 0 is one of these, and so is one that hands its line over whole if nothing goes
wrong behind the pipe. Where no other call has appended a part of its line, the file is read as the
older alerts and these. -/
theorem notificationLog_lines (format : OutputFormat) (calls : StartCalls) (its : List Iteration)
    (old : List (Bytes × AlertEvent)) (hold : ∀ a ∈ old, alertLines.Legible a)
    (sends : List (Sending α))
    (hsends : sends.map (fun x => (x.event, x.command)) =
      ((daemon format calls its).shown Event.sent?).map Prod.snd)
    (htold : ∀ x ∈ sends, x.StatusTold) :
    List.Forall₂ (fun a l => alertLines.line a <:+ l) (old ++ loggedAlerts sends)
        (LineFormat.wholeLines (notificationLog (alertLines.stream old) sends)) ∧
      (∀ x ∈ sends, x.ReturnsZero → x.Logged) ∧
      (∀ x ∈ sends, x.Undisturbed → (x.Logged ↔ x.handedOver = alertLines.line x.alert)) ∧
      ((∀ x ∈ sends, x.appended = [] ∨ x.Logged) →
        alertLines.readStream (notificationLog (alertLines.stream old) sends) =
          some ((old ++ loggedAlerts sends).map alertLines.view)) := by
  have hlegible : ∀ x ∈ sends, alertLines.Legible x.alert := by
    intro x hx
    have hmem : (x.event, x.command) ∈ ((daemon format calls its).shown Event.sent?).map Prod.snd :=
      hsends ▸ List.mem_map_of_mem hx
    obtain ⟨⟨source, event, command⟩, hsent, heq⟩ := List.mem_map.mp hmem
    obtain ⟨rfl, rfl⟩ := Prod.mk.inj heq
    obtain ⟨⟨source', action⟩, he, hview⟩ := List.mem_filterMap.mp hsent
    cases action with
    | notifierSend event command =>
      obtain ⟨rfl, hpair⟩ := Prod.mk.inj (Option.some.inj hview)
      obtain ⟨rfl, rfl⟩ := Prod.mk.inj hpair
      exact legible_alertLines x.newline_not_mem x.equals_not_mem (legible_of_sent he)
    | _ => cases hview
  refine ⟨?_, fun x hx => logged_of_returnsZero (htold x hx), fun x _ h => ?_, fun hwhole => ?_⟩
  · rw [← wholeRecords_linePieces, ← flatMap_linePieces]
    have hnil : newline ∉ ([] : Bytes) := List.not_mem_nil
    refine LineFormat.forall₂_wholeLines (fun p hp => ?_) hnil
    rcases List.mem_append.mp hp with hmem | hmem
    · obtain ⟨a, ha, rfl⟩ := List.mem_map.mp hmem
      exact ⟨(hold a ha).newline_not_mem, List.prefix_rfl⟩
    · obtain ⟨x, hx, rfl⟩ := List.mem_map.mp hmem
      exact ⟨(hlegible x hx).newline_not_mem, appended_prefix x⟩
  · rw [Sending.Logged, appended_of_undisturbed h]
  · rw [← flatMap_linePieces, LineFormat.flatMap_eq_stream, wholeRecords_linePieces]
    · refine LineFormat.readStream_stream fun a ha => ?_
      rcases List.mem_append.mp ha with hmem | hmem
      · exact hold a hmem
      · obtain ⟨x, hx, rfl⟩ := List.mem_map.mp hmem
        exact hlegible x (List.mem_filter.mp hx).1
    · intro p hp
      rcases List.mem_append.mp hp with hmem | hmem
      · obtain ⟨a, -, rfl⟩ := List.mem_map.mp hmem
        exact .inr rfl
      · obtain ⟨x, hx, rfl⟩ := List.mem_map.mp hmem
        exact hwhole x hx

/-- The notification of a run in which the memory is used up, in three pieces. -/
def piecewiseSending : Sending ℕ where
  event := ⟨memoryUsedUp, 0⟩
  command := ascii "n"
  answers := piecewiseCalls
  sigpipe := ⟨.default, 0, 0⟩
  child := executedChild
  script := ⟨true, true, true, none⟩
  timeText := ascii "2026-08-03 17:20:30"
  time_ok := rfl
  newline_not_mem := by decide
  equals_not_mem := by decide

/-- It is read behind an older one. -/
theorem notificationLog_lines_exhausted :
    alertLines.readStream
        (notificationLog (alertLines.stream [piecewiseSending.alert]) [piecewiseSending]) =
      some [alertLines.view piecewiseSending.alert, alertLines.view piecewiseSending.alert] := by
  have hrun : [piecewiseSending].map (fun x => (x.event, x.command)) =
      ((daemon .json notifyingStart exhaustingRounds).shown Event.sent?).map Prod.snd := by
    decide +kernel
  have hold : ∀ a ∈ [piecewiseSending.alert], alertLines.Legible a := by
    intro a ha
    rw [List.mem_singleton.mp ha]
    exact legible_alertLines piecewiseSending.newline_not_mem piecewiseSending.equals_not_mem
      ⟨by decide, .inl rfl, 100, rfl⟩
  have htold : ∀ x ∈ [piecewiseSending], x.StatusTold := by
    intro x hx _
    rw [List.mem_singleton.mp hx]
    decide +kernel
  obtain ⟨-, hzero, -, hread⟩ := notificationLog_lines .json notifyingStart exhaustingRounds
    [piecewiseSending.alert] hold [piecewiseSending] hrun htold
  have hlogged : piecewiseSending.Logged :=
    hzero _ (List.mem_singleton_self _) ⟨⟨.default, 0, 0⟩, by decide +kernel⟩
  rw [hread (by simp [hlogged]), loggedAlerts, List.filter_cons_of_pos (by simpa using hlogged)]
  rfl

end EdgeSentinel.Monitor
