import EdgeSentinel.Monitor.Alert
import EdgeSentinel.Trace.Traced

/-!
# The notifier

`notifier.c`: a notification is written to a pipe, whose other end is the standard input of a
program that is started for it.

## The model

`notifierSend` is what the daemon does, as a trace of its system calls. What they come to is
given call by call (`NotifierCalls`). The calls of `write` and `waitpid` are made in loops, and
may be interrupted any number of times: a computation that has used up the answers it was given
has not returned (`Waiting`). What the child does is not part of it.

## What is proved

* `writeAll_sent` — what the loop over `write` hands over is the beginning of the data, without a
  gap, and all of it exactly if the loop succeeds.
* `notifierSend_ok` — the paths through `notifier_send`.
* `notifierSend_returns` — **a call that returns**: when it returns 0, what the pipe has accepted,
  and what is cleaned up.
-/

namespace EdgeSentinel.Monitor

open CLib Trace Trace.Traced

/-! ### The message -/

/-- `NOTIFIER_MESSAGE_LENGTH`. -/
abbrev notifierMessageLength : ℕ := 512

/-- `notifier_format_message`, where `timeText` is the text of the time of the event, if
`localtime_r` and `strftime` succeed. -/
def notifierFormatMessage (timeText : Option Bytes) (event : AlertEvent) (bufferSize : ℕ) :
    Option Bytes :=
  if bufferSize = 0 then none
  else
    match timeText with
    | none => none
    | some timeText =>
      let message := ascii "[EdgeSentinel] " ++ alertMetricToString event.metric ++
        ascii " target=" ++ event.target ++ ascii " status=" ++
        alertLevelToString event.previousLevel ++ ascii "->" ++
        alertLevelToString event.currentLevel ++ ascii " value=" ++ fixed2 event.currentValue ++
        event.unit ++ ascii " time=" ++ timeText
      if bufferSize ≤ message.length then none else some message

/-! ### The system calls -/

/-- An end of the pipe. -/
inductive PipeEnd where
  /-- `pipe_descriptors[0]`. -/
  | read
  /-- `pipe_descriptors[1]`. -/
  | write
  deriving DecidableEq, Repr

/-- What is done on a signal. -/
inductive SigHandler where
  /-- `SIG_DFL`. -/
  | default
  /-- `SIG_IGN`. -/
  | ignore
  /-- A function. -/
  | function (address : UInt64)
  deriving DecidableEq, Repr

/-- `struct sigaction`. -/
structure SigAction where
  /-- `sa_handler`. -/
  handler : SigHandler
  /-- `sa_mask`, one bit for each signal. -/
  mask : UInt64
  /-- `sa_flags`. -/
  flags : UInt32
  deriving DecidableEq, Repr

/-- `ignore_sigpipe`. -/
def ignoreSigpipe : SigAction := ⟨.ignore, 0, 0⟩

/-- What a call of `write` comes to. -/
inductive WriteResult where
  /-- It is interrupted by a signal (`EINTR`). -/
  | interrupted
  /-- It fails otherwise. -/
  | failed
  /-- It accepts some bytes of those it is given, at most all of them. -/
  | wrote (n : ℕ)
  deriving DecidableEq, Repr

/-- How a child has ended. -/
inductive ChildStatus where
  /-- It has exited with a status: `WIFEXITED` holds. -/
  | exited (status : UInt8)
  /-- It was killed by a signal. -/
  | signaled (signal : UInt8)
  deriving DecidableEq, Repr

/-- What a call of `waitpid` comes to. -/
inductive WaitResult where
  /-- It is interrupted by a signal (`EINTR`). -/
  | interrupted
  /-- It fails otherwise. -/
  | failed
  /-- The child has ended. -/
  | ended (status : ChildStatus)
  deriving DecidableEq, Repr

/-- What the system calls come to that are made for one notification. -/
structure NotifierCalls where
  /-- The text of the time, if `localtime_r` and `strftime` succeed. -/
  timeText : Option Bytes
  /-- `pipe` succeeds. -/
  pipe : Bool
  /-- `fork` succeeds. -/
  fork : Bool
  /-- The `sigaction` that ignores `SIGPIPE` succeeds. -/
  ignoreSigpipe : Bool
  /-- The calls of `write`. -/
  writes : List WriteResult
  /-- `close` of the write end succeeds. -/
  closeWrite : Bool
  /-- The `sigaction` that restores the disposition of `SIGPIPE` succeeds. -/
  restoreSigpipe : Bool
  /-- The calls of `waitpid`. -/
  waits : List WaitResult
  deriving DecidableEq, Repr

/-- A system call of the parent, or its call of `wait_for_child`. -/
inductive NotifierCall where
  /-- `pipe`. -/
  | pipe
  /-- `fork`. -/
  | fork
  /-- `close`. -/
  | close (pipeEnd : PipeEnd)
  /-- `sigaction(SIGPIPE, …)`. -/
  | sigaction (action : SigAction)
  /-- `write`, and the bytes that it accepts. -/
  | write (accepted : Bytes)
  /-- `wait_for_child`. -/
  | waitForChild
  deriving DecidableEq, Repr

/-- What a call that has not returned waits for. -/
inductive Waiting where
  /-- `write`. -/
  | write
  /-- `waitpid`. -/
  | child
  deriving DecidableEq, Repr

/-- `write_all`: whether it returns 0, and the answers that are left. -/
def writeAll : (data : Bytes) → List WriteResult →
    Traced NotifierCall Waiting (Bool × List WriteResult)
  | [], results => pure (true, results)
  | _ :: _, [] => stop .write
  | b :: data, .interrupted :: results => do
    emit (.write [])
    writeAll (b :: data) results
  | _ :: _, .failed :: results => do
    emit (.write [])
    pure (false, results)
  | b :: data, .wrote n :: results => do
    emit (.write ((b :: data).take n))
    if n = 0 then pure (false, results) else writeAll ((b :: data).drop n) results

/-- The two calls of `write_all`, with the message and with a newline: whether both return 0, and
the answers that are left. -/
def writeMessage (message : Bytes) (results : List WriteResult) :
    Traced NotifierCall Waiting (Bool × List WriteResult) := do
  let (sent, results) ← writeAll message results
  if sent then writeAll [newline] results else pure (false, results)

/-- `wait_for_child`: how the child has ended, unless `waitpid` fails. -/
def waitForChild : List WaitResult → Traced NotifierCall Waiting (Option ChildStatus)
  | [] => stop .child
  | .interrupted :: results => waitForChild results
  | .failed :: _ => pure none
  | .ended status :: _ => pure (some status)

/-- The checks at the end of `notifier_send`: whether it returns 0, where `sendResult` says that
`send_result` is 0. -/
def notifierResult (sendResult : Bool) : Option ChildStatus → Bool
  | none => false
  | some status =>
    if ¬ sendResult then false
    else
      match status with
      | .signaled _ => false
      | .exited status => status = 0

/-- `notifier_send`, where `sigpipe` is the disposition of `SIGPIPE`: whether it returns 0, and
the disposition it leaves behind. -/
def notifierSend (calls : NotifierCalls) (event : AlertEvent) (command : Bytes)
    (sigpipe : SigAction) : Traced NotifierCall Waiting (Bool × SigAction) :=
  if command = [] then pure (false, sigpipe)
  else
    match notifierFormatMessage calls.timeText event notifierMessageLength with
    | none => pure (false, sigpipe)
    | some message => do
      emit .pipe
      if ¬ calls.pipe then pure (false, sigpipe)
      else do
        emit .fork
        if ¬ calls.fork then do
          emit (.close .read)
          emit (.close .write)
          pure (false, sigpipe)
        else do
          emit (.close .read)
          emit (.sigaction ignoreSigpipe)
          if ¬ calls.ignoreSigpipe then do
            emit (.close .write)
            emit .waitForChild
            let _ ← waitForChild calls.waits
            pure (false, sigpipe)
          else do
            let previousSigpipe := sigpipe
            let (sent, _) ← writeMessage message calls.writes
            emit (.close .write)
            emit (.sigaction previousSigpipe)
            let sigpipe := if calls.restoreSigpipe then previousSigpipe else ignoreSigpipe
            emit .waitForChild
            let status ← waitForChild calls.waits
            pure (notifierResult (sent && calls.closeWrite && calls.restoreSigpipe) status, sigpipe)

/-! ### The loops -/

/-- The bytes that the pipe has accepted. -/
def accepted (events : List NotifierCall) : Bytes :=
  events.flatMap fun
    | .write bytes => bytes
    | _ => []

@[simp] theorem accepted_append (events events' : List NotifierCall) :
    accepted (events ++ events') = accepted events ++ accepted events' :=
  List.flatMap_append

@[simp] theorem accepted_write_cons (bytes : Bytes) (events : List NotifierCall) :
    accepted (.write bytes :: events) = bytes ++ accepted events := rfl

variable {data : Bytes} {results rest : List WriteResult} {sent : Bool}

/-- `write_all` does nothing but write. -/
theorem writeAll_emits (data : Bytes) (results : List WriteResult) :
    (writeAll data results).Emits fun e => ∃ bytes, e = .write bytes := by
  fun_induction writeAll data results with
  | case1 => exact .pure
  | case2 => exact .stop
  | case3 b data results ih => exact .emit_bind ⟨_, rfl⟩ ih
  | case4 => exact .emit_bind ⟨_, rfl⟩ .pure
  | case5 b data n results ih =>
    refine .emit_bind ⟨_, rfl⟩ ?_
    split_ifs with hn
    · exact .pure
    · exact ih

/-- What it hands over is the beginning of the data, without a gap. -/
theorem accepted_writeAll_prefix (data : Bytes) (results : List WriteResult) :
    accepted (writeAll data results).events <+: data := by
  fun_induction writeAll data results with
  | case1 => exact List.prefix_rfl
  | case2 => exact List.nil_prefix
  | case3 b data results ih => exact ih
  | case4 => exact List.nil_prefix
  | case5 b data n results ih =>
    rw [events_emit_bind, accepted_write_cons]
    split_ifs with hn
    · rw [hn]
      exact List.nil_prefix
    · -- what comes next is the beginning of what is left
      have hrest := List.prefix_append_right_inj ((b :: data).take n) |>.mpr ih
      rwa [List.take_append_drop] at hrest

/-- **`write_all`** succeeds exactly if it hands over all of the data. -/
theorem writeAll_sent (h : (writeAll data results).result = .ok (sent, rest)) :
    sent = true ↔ accepted (writeAll data results).events = data := by
  fun_induction writeAll data results with
  | case1 =>
    obtain ⟨rfl, -⟩ := Prod.mk.inj (Except.ok.inj h)
    exact iff_of_true rfl rfl
  | case2 => cases h
  | case3 b data results ih => exact ih h
  | case4 =>
    obtain ⟨rfl, -⟩ := Prod.mk.inj (Except.ok.inj h)
    exact iff_of_false Bool.false_ne_true nofun
  | case5 b data n results ih =>
    rw [result_emit_bind] at h
    rw [events_emit_bind, accepted_write_cons]
    split_ifs at h ⊢ with hn
    · obtain ⟨rfl, -⟩ := Prod.mk.inj (Except.ok.inj h)
      rw [hn]
      exact iff_of_false Bool.false_ne_true nofun
    · rw [ih h]
      constructor
      · intro hall
        rw [hall, List.take_append_drop]
      · intro hall
        exact List.append_cancel_left (hall.trans (List.take_append_drop n _).symm)

variable {message : Bytes}

theorem writeMessage_emits (message : Bytes) (results : List WriteResult) :
    (writeMessage message results).Emits fun e => ∃ bytes, e = .write bytes := by
  refine .bind (writeAll_emits _ _) fun a _ => ?_
  dsimp only
  split_ifs
  · exact writeAll_emits _ _
  · exact .pure

/-- **What the pipe accepts** is the beginning of the line. -/
theorem accepted_writeMessage_prefix (message : Bytes) (results : List WriteResult) :
    accepted (writeMessage message results).events <+: message ++ [newline] := by
  have hpre := accepted_writeAll_prefix message results
  unfold writeMessage
  rcases hfirst : (writeAll message results).result with waiting | ⟨sent, results'⟩
  · rw [bind_of_error hfirst]
    exact hpre.trans (List.prefix_append _ _)
  · rw [events_bind hfirst, accepted_append]
    have hsent := writeAll_sent hfirst
    cases sent with
    | false =>
      simp only [Bool.false_eq_true, if_false, events_pure]
      exact (List.append_nil _).symm ▸ hpre.trans (List.prefix_append _ _)
    | true =>
      simp only [if_true]
      rw [hsent.mp rfl, List.prefix_append_right_inj]
      exact accepted_writeAll_prefix _ _

/-- **Both calls** of `write_all` succeed exactly if the pipe accepts the whole line. -/
theorem writeMessage_sent (h : (writeMessage message results).result = .ok (sent, rest)) :
    sent = true ↔ accepted (writeMessage message results).events = message ++ [newline] := by
  have hpre := accepted_writeAll_prefix message results
  unfold writeMessage at h ⊢
  obtain ⟨⟨first, results'⟩, hfirst, h⟩ := result_bind_ok.mp h
  rw [events_bind hfirst, accepted_append]
  have hsent := writeAll_sent hfirst
  cases first with
  | false =>
    simp only [Bool.false_eq_true, if_false] at h ⊢
    obtain ⟨rfl, -⟩ := Prod.mk.inj (Except.ok.inj h)
    refine iff_of_false Bool.false_ne_true fun hall => ?_
    -- the newline cannot have been accepted
    have hnone : accepted (pure (false, results') : Traced NotifierCall Waiting
      (Bool × List WriteResult)).events = [] := rfl
    rw [hnone, List.append_nil] at hall
    rw [hall] at hpre
    have hle := hpre.length_le
    rw [List.length_append, List.length_singleton] at hle
    omega
  | true =>
    simp only [if_true] at h ⊢
    rw [hsent.mp rfl, writeAll_sent h, List.append_cancel_left_eq]

example : (writeAll (ascii "abc") [.wrote 2, .interrupted, .wrote 1]).events =
    [.write (ascii "ab"), .write [], .write (ascii "c")] := by
  decide

/-- How the child has ended, when `waitpid` is no longer interrupted. -/
def childStatus (results : List WaitResult) : Option ChildStatus :=
  match results.find? (· ≠ .interrupted) with
  | some (.ended status) => some status
  | _ => none

/-- **`wait_for_child`** returns what `waitpid` comes to when it is no longer interrupted, and
makes no other system call. -/
theorem waitForChild_ok {results : List WaitResult} {status : Option ChildStatus}
    (h : (waitForChild results).result = .ok status) :
    status = childStatus results ∧ (waitForChild results).events = [] := by
  fun_induction waitForChild results with
  | case1 => cases h
  | case2 results ih => exact ih h
  | case3 => exact ⟨(Except.ok.inj h).symm, rfl⟩
  | case4 => exact ⟨(Except.ok.inj h).symm, rfl⟩

/-! ### The paths -/

variable {calls : NotifierCalls} {event : AlertEvent} {command : Bytes}
  {sigpipe sigpipe' : SigAction} {returned : Bool}

/-- The path through `notifier_send` that is taken: what it returns, the disposition it leaves
behind, and its system calls. -/
inductive NotifierPath (calls : NotifierCalls) (event : AlertEvent) (command : Bytes)
    (sigpipe : SigAction) : Bool → SigAction → List NotifierCall → Prop
  /-- There is no command, or no message. -/
  | invalid (h : command = [] ∨
      notifierFormatMessage calls.timeText event notifierMessageLength = none) :
    NotifierPath calls event command sigpipe false sigpipe []
  /-- `pipe` fails. -/
  | pipe (h : calls.pipe = false) : NotifierPath calls event command sigpipe false sigpipe [.pipe]
  /-- `fork` fails. -/
  | fork (h : calls.fork = false) : NotifierPath calls event command sigpipe false sigpipe
      [.pipe, .fork, .close .read, .close .write]
  /-- `SIGPIPE` cannot be ignored. -/
  | ignoreSigpipe (hfork : calls.fork = true) (h : calls.ignoreSigpipe = false) :
    NotifierPath calls event command sigpipe false sigpipe
      [.pipe, .fork, .close .read, .sigaction ignoreSigpipe, .close .write, .waitForChild]
  /-- The message is written. -/
  | written {message : Bytes} {sent : Bool} {rest : List WriteResult}
      (hmessage : notifierFormatMessage calls.timeText event notifierMessageLength = some message)
      (hfork : calls.fork = true) (hignore : calls.ignoreSigpipe = true)
      (hsent : (writeMessage message calls.writes).result = .ok (sent, rest)) :
    NotifierPath calls event command sigpipe
      (notifierResult (sent && calls.closeWrite && calls.restoreSigpipe) (childStatus calls.waits))
      (if calls.restoreSigpipe then sigpipe else ignoreSigpipe)
      ([.pipe, .fork, .close .read, .sigaction ignoreSigpipe] ++
        (writeMessage message calls.writes).events ++
        [.close .write, .sigaction sigpipe, .waitForChild])

/-- **The paths** through `notifier_send`. -/
theorem notifierSend_ok
    (h : (notifierSend calls event command sigpipe).result = .ok (returned, sigpipe')) :
    NotifierPath calls event command sigpipe returned sigpipe'
      (notifierSend calls event command sigpipe).events := by
  unfold notifierSend at h ⊢
  by_cases hcommand : command = []
  · rw [if_pos hcommand] at h ⊢
    obtain ⟨rfl, rfl⟩ := Prod.mk.inj (Except.ok.inj h)
    exact .invalid (.inl hcommand)
  rw [if_neg hcommand] at h ⊢
  cases hmessage : notifierFormatMessage calls.timeText event notifierMessageLength with
  | none =>
    simp only [hmessage] at h ⊢
    obtain ⟨rfl, rfl⟩ := Prod.mk.inj (Except.ok.inj h)
    exact .invalid (.inr hmessage)
  | some message =>
    simp only [hmessage, result_emit_bind, events_emit_bind] at h ⊢
    by_cases hpipe : calls.pipe = true
    swap
    · rw [if_pos hpipe] at h ⊢
      obtain ⟨rfl, rfl⟩ := Prod.mk.inj (Except.ok.inj h)
      exact .pipe (Bool.eq_false_of_not_eq_true hpipe)
    rw [if_neg (not_not.mpr hpipe)] at h ⊢
    rw [result_emit_bind] at h
    rw [events_emit_bind]
    by_cases hfork : calls.fork = true
    swap
    · rw [if_pos hfork] at h ⊢
      obtain ⟨rfl, rfl⟩ := Prod.mk.inj (Except.ok.inj h)
      exact .fork (Bool.eq_false_of_not_eq_true hfork)
    rw [if_neg (not_not.mpr hfork)] at h ⊢
    simp only [result_emit_bind, events_emit_bind] at h ⊢
    by_cases hignore : calls.ignoreSigpipe = true
    swap
    · rw [if_pos hignore] at h ⊢
      simp only [result_emit_bind, events_emit_bind] at h ⊢
      obtain ⟨status, hwait, h⟩ := result_bind_ok.mp h
      obtain ⟨rfl, rfl⟩ := Prod.mk.inj (Except.ok.inj h)
      rw [events_bind hwait, (waitForChild_ok hwait).2]
      exact .ignoreSigpipe hfork (Bool.eq_false_of_not_eq_true hignore)
    rw [if_neg (not_not.mpr hignore)] at h ⊢
    obtain ⟨⟨sent, rest⟩, hsent, h⟩ := result_bind_ok.mp h
    rw [events_bind hsent]
    simp only [result_emit_bind, events_emit_bind] at h ⊢
    obtain ⟨status, hwait, h⟩ := result_bind_ok.mp h
    obtain ⟨hstatus, hevents⟩ := waitForChild_ok hwait
    rw [events_bind hwait, hevents]
    obtain ⟨rfl, rfl⟩ := Prod.mk.inj (Except.ok.inj h)
    rw [hstatus]
    exact .written hmessage hfork hignore hsent

/-! ### A call that returns -/

theorem notifierResult_iff {sendResult : Bool} {status : Option ChildStatus} :
    notifierResult sendResult status = true ↔ sendResult = true ∧ status = some (.exited 0) := by
  rcases status with _ | _ | _
  · simp [notifierResult]
  · cases sendResult <;> simp [notifierResult]
  · simp [notifierResult]

/-- `write_all` makes no system call but `write`. -/
theorem count_written {e : NotifierCall} (he : ∀ bytes, e ≠ .write bytes)
    (before behind : List NotifierCall) :
    (before ++ (writeMessage message results).events ++ behind).count e =
      before.count e + behind.count e := by
  have hnone : (writeMessage message results).events.count e = 0 := by
    refine List.count_eq_zero.mpr fun hmem => ?_
    obtain ⟨bytes, rfl⟩ := writeMessage_emits message results e hmem
    exact he bytes rfl
  rw [List.count_append, List.count_append, hnone, Nat.add_zero]

/-- What is promised of a call that has returned. -/
structure NotifierDone (calls : NotifierCalls) (event : AlertEvent) (command : Bytes)
    (sigpipe : SigAction) (returned : Bool) (sigpipe' : SigAction) (events : List NotifierCall) :
    Prop where
  /-- It returns 0 if and only if the line was sent and the program has accepted it. -/
  returns_iff : ∀ message, command ≠ [] →
    notifierFormatMessage calls.timeText event notifierMessageLength = some message →
    calls.pipe = true → calls.fork = true →
    (returned = true ↔ accepted events = message ++ [newline] ∧ calls.closeWrite = true ∧
      calls.ignoreSigpipe = true ∧ calls.restoreSigpipe = true ∧
      childStatus calls.waits = some (.exited 0))
  /-- The pipe has accepted the beginning of the line. -/
  accepted_prefix : ∀ message,
    notifierFormatMessage calls.timeText event notifierMessageLength = some message →
    accepted events <+: message ++ [newline]
  /-- Both ends of the pipe are closed once, behind `pipe`. -/
  closes : .pipe ∈ events → calls.pipe = true → ∀ pipeEnd : PipeEnd,
    List.Sublist [.pipe, .close pipeEnd] events ∧ events.count (.close pipeEnd) = 1
  /-- The child is waited for once, behind `fork`. -/
  waits : .fork ∈ events → calls.fork = true →
    List.Sublist [.fork, .waitForChild] events ∧ events.count .waitForChild = 1
  /-- The disposition of `SIGPIPE` is as it was, unless it was changed and cannot be restored. -/
  sigpipe_restored : calls.ignoreSigpipe = false ∨ calls.restoreSigpipe = true →
    sigpipe' = sigpipe

/-- What is promised holds on every path. -/
theorem NotifierPath.done {events : List NotifierCall}
    (h : NotifierPath calls event command sigpipe returned sigpipe' events) :
    NotifierDone calls event command sigpipe returned sigpipe' events := by
  cases h with
  | invalid hinvalid =>
    refine ⟨fun message hcommand hmessage => ?_, fun _ _ => List.nil_prefix, nofun, nofun,
      fun _ => rfl⟩
    rcases hinvalid with hnone | hnone
    · exact absurd hnone hcommand
    · rw [hmessage] at hnone
      cases hnone
  | pipe hpipe =>
    refine ⟨fun _ _ _ hok => ?_, fun _ _ => List.nil_prefix, fun _ hok => ?_, by simp, fun _ => rfl⟩
    · rw [hpipe] at hok
      cases hok
    · rw [hpipe] at hok
      cases hok
  | fork hfork =>
    refine ⟨fun _ _ _ _ hok => ?_, fun _ _ => List.nil_prefix, fun _ _ => ?_, fun _ hok => ?_,
      fun _ => rfl⟩
    · rw [hfork] at hok
      cases hok
    · rintro (_ | _) <;> decide
    · rw [hfork] at hok
      cases hok
  | ignoreSigpipe hfork hignore =>
    refine ⟨fun _ _ _ _ _ => ?_, fun _ _ => List.nil_prefix, fun _ _ => ?_, fun _ _ => by decide,
      fun _ => rfl⟩
    · rw [hignore]
      simp
    · rintro (_ | _) <;> decide
  | @written message sent rest hmessage hfork hignore hsent =>
    have haccepted : accepted ([.pipe, .fork, .close .read, .sigaction Monitor.ignoreSigpipe] ++
        (writeMessage message calls.writes).events ++
        [.close .write, .sigaction sigpipe, .waitForChild]) =
        accepted (writeMessage message calls.writes).events := by
      rw [accepted_append, accepted_append]
      exact List.append_nil _
    refine ⟨fun message' _ hmessage' _ _ => ?_, fun message' hmessage' => ?_, fun _ _ => ?_,
      fun _ _ => ?_, fun hrestore => ?_⟩
    · obtain rfl := Option.some.inj (hmessage.symm.trans hmessage')
      rw [haccepted, ← writeMessage_sent hsent, notifierResult_iff, hignore]
      simp [and_assoc]
    · obtain rfl := Option.some.inj (hmessage.symm.trans hmessage')
      rw [haccepted]
      exact accepted_writeMessage_prefix _ _
    · rintro (_ | _)
      · exact ⟨by simp, count_written (e := .close .read) nofun _ _⟩
      · exact ⟨by simp, count_written (e := .close .write) nofun _ _⟩
    · exact ⟨by simp, count_written (e := .waitForChild) nofun _ _⟩
    · rw [if_pos (hrestore.resolve_left (by rw [hignore]; decide))]

/-- **A call of `notifier_send` that returns**: it returns 0 exactly if the line was sent and the
program has accepted it, the pipe has accepted nothing but the beginning of the line, and both
ends of the pipe, the child and the disposition of `SIGPIPE` are cleaned up. -/
theorem notifierSend_returns (calls : NotifierCalls) (event : AlertEvent) (command : Bytes)
    (sigpipe : SigAction) (returned : Bool) (sigpipe' : SigAction)
    (h : (notifierSend calls event command sigpipe).result = .ok (returned, sigpipe')) :
    NotifierDone calls event command sigpipe returned sigpipe'
      (notifierSend calls event command sigpipe).events :=
  (notifierSend_ok h).done

/-- A warning about the memory. -/
def memoryWarning : AlertEvent :=
  ⟨⟨.systemMemory, ascii "system", .normal, .warning, .finite (313 / 4), ascii "%"⟩, 0⟩

/-- A line that is written in three pieces, with interruptions, and accepted by the program. -/
def interruptedCalls : NotifierCalls where
  timeText := some (ascii "2026-08-03 17:20:30")
  pipe := true
  fork := true
  ignoreSigpipe := true
  writes := [.wrote 7, .interrupted, .wrote 96, .interrupted, .wrote 1]
  closeWrite := true
  restoreSigpipe := true
  waits := [.interrupted, .ended (.exited 0)]

/-- This call returns 0. -/
theorem notifierSend_returns_interrupted :
    NotifierDone interruptedCalls memoryWarning (ascii "/bin/cat") ⟨.default, 0, 0⟩ true
      ⟨.default, 0, 0⟩ (notifierSend interruptedCalls memoryWarning (ascii "/bin/cat")
        ⟨.default, 0, 0⟩).events :=
  notifierSend_returns _ _ _ _ _ _ (by decide +kernel)

end EdgeSentinel.Monitor
