import EdgeSentinel.CLib.Descriptors
import EdgeSentinel.Monitor.Notifier

/-!
# The child of the notifier

`notifier_send` makes the read end of its pipe the standard input of the program that it starts.
The numbers of the descriptors are up to the operating system: where the daemon has no standard
input, the read end is already number 0.

## The model

* `pipe` — the two ends get the lowest descriptors that are free.
* `child` — the descriptors of the child, up to its call of `execl`.
* `ChildRun` — a child, with what its calls come to; `ChildRun.reads` is what the program reads
  of what was handed over to the pipe, where it is executed and reads to the end.

## What is proved

* `file_child` — what the descriptors of the child are.
* `child_receives_iff` — **when the program receives the message** on its standard input.
* `file_parent` — the descriptors of the daemon, which are what they were.
* `ChildRun.standardInput_program` — a program that is executed finds the message on its standard
  input exactly if the daemon has one.
-/

namespace EdgeSentinel.Monitor

open CLib

universe u

/-- What a descriptor stands for. -/
inductive OpenFile (α : Type u) where
  /-- An end of the pipe. -/
  | pipe (pipeEnd : PipeEnd)
  /-- Any other file. -/
  | other (file : α)
  deriving DecidableEq, Repr

/-- `STDIN_FILENO`. -/
def stdinFileno : ℕ := 0

variable {α : Type u}

/-- `pipe`: the descriptors of its two ends, and the table with them. -/
def pipe (t : Descriptors α) : ℕ × ℕ × Descriptors (OpenFile α) :=
  let (readEnd, t) := (t.map OpenFile.other).alloc (.pipe .read)
  let (writeEnd, t) := t.alloc (.pipe .write)
  (readEnd, writeEnd, t)

/-- The child of `notifier_send` up to `execl`, which it reaches unless `dup2` fails. -/
def child (dup2Succeeds : Bool) (t : Descriptors α) : Option (Descriptors (OpenFile α)) :=
  let (readEnd, writeEnd, t) := pipe t
  let t := t.close writeEnd
  if ¬ dup2Succeeds then none
  else
    match t.dup2 readEnd stdinFileno with
    | none => none
    | some t => some (t.close readEnd)

/-- The descriptors of the daemon behind `notifier_send`. -/
def parent (t : Descriptors α) : Descriptors (OpenFile α) :=
  let (readEnd, writeEnd, t) := pipe t
  let t := t.close readEnd
  t.close writeEnd

variable {t : Descriptors α} {t' : Descriptors (OpenFile α)} {dup2Succeeds : Bool} {d : ℕ}

/-- The ends of the pipe get descriptors that were free, the read end the lowest one. -/
theorem pipe_spec {readEnd writeEnd : ℕ} (h : pipe t = (readEnd, writeEnd, t')) :
    readEnd = t.lowestFree ∧ t.file writeEnd = none ∧ writeEnd ≠ readEnd ∧
      t'.file = Function.update (Function.update (t.map OpenFile.other).file readEnd
        (some (.pipe .read))) writeEnd (some (.pipe .write)) := by
  obtain ⟨hread, hrest⟩ := Prod.mk.inj h
  obtain ⟨hwrite, htable⟩ := Prod.mk.inj hrest
  have hfree := ((t.map OpenFile.other).set readEnd (some (.pipe .read))).file_lowestFree
  subst hread hwrite htable
  have hne : ((t.map OpenFile.other).set (t.map OpenFile.other).lowestFree
      (some (.pipe .read))).lowestFree ≠ (t.map OpenFile.other).lowestFree := by
    intro he
    rw [he, Descriptors.file_set, Function.update_self] at hfree
    cases hfree
  rw [Descriptors.file_set, Function.update_of_ne hne, Descriptors.file_map,
    Option.map_eq_none_iff] at hfree
  exact ⟨t.lowestFree_map _, hfree, hne, rfl⟩

/-- **The descriptors of the child**: the read end is its standard input, unless the daemon had
none, and everything else is as in the daemon. -/
theorem file_child (h : child dup2Succeeds t = some t') (d : ℕ) : t'.file d =
    if d = stdinFileno ∧ t.file stdinFileno ≠ none then some (.pipe .read)
    else (t.file d).map .other := by
  unfold child at h
  rcases hpipe : pipe t with ⟨readEnd, writeEnd, table⟩
  obtain ⟨hread, hwrite, hne, htable⟩ := pipe_spec hpipe
  rw [hpipe] at h
  dsimp only at h
  split_ifs at h with hdup
  rcases hdup2 : (table.close writeEnd).dup2 readEnd stdinFileno with _ | table'
  · rw [hdup2] at h
    cases h
  rw [hdup2] at h
  obtain rfl := Option.some.inj h
  -- without the write end, only the read end is new
  have hclosed : (table.close writeEnd).file =
      Function.update (t.map OpenFile.other).file readEnd (some (.pipe .read)) := by
    rw [Descriptors.file_close, htable, Function.update_idem]
    refine Function.update_eq_self_iff.mpr ?_
    rw [Function.update_of_ne hne, Descriptors.file_map, hwrite, Option.map_none]
  have hreadEnd : (table.close writeEnd).file readEnd = some (.pipe .read) := by
    rw [hclosed, Function.update_self]
  rw [Descriptors.file_close, Descriptors.file_dup2 _ hreadEnd hdup2, hclosed]
  have hfree : t.file readEnd = none := hread ▸ t.file_lowestFree
  by_cases hstdin : t.file stdinFileno = none
  · -- the read end is the standard input already, and is closed
    have hzero : readEnd = stdinFileno :=
      Nat.le_zero.mp (hread ▸ t.lowestFree_le hstdin)
    rw [if_neg fun hc => hc.2 hstdin, hzero]
    by_cases hd : d = stdinFileno
    · rw [hd, Function.update_self, hstdin, Option.map_none]
    · rw [Function.update_of_ne hd, Function.update_of_ne hd, Function.update_of_ne hd,
        Descriptors.file_map]
  · have hne' : stdinFileno ≠ readEnd := by
      rintro rfl
      exact hstdin hfree
    by_cases hd : d = stdinFileno
    · rw [if_pos ⟨hd, hstdin⟩, hd, Function.update_of_ne hne', Function.update_self]
    · rw [if_neg fun hc => hd hc.1]
      by_cases hd' : d = readEnd
      · rw [hd', Function.update_self, hfree, Option.map_none]
      · rw [Function.update_of_ne hd', Function.update_of_ne hd, Function.update_of_ne hd',
          Descriptors.file_map]

/-- What is promised of the program: its standard input is the read end, and it has no write end,
so that its input ends when the daemon closes its own. -/
structure ReceivesMessage (t : Descriptors (OpenFile α)) : Prop where
  /-- The standard input is the read end. -/
  stdin : t.file stdinFileno = some (.pipe .read)
  /-- There is no write end. -/
  no_write_end : ∀ d, t.file d ≠ some (.pipe .write)

/-- A child reaches `execl` if its `dup2` does not fail. -/
theorem exists_child (t : Descriptors α) : ∃ t', child true t = some t' := by
  rcases hpipe : pipe t with ⟨readEnd, writeEnd, table⟩
  obtain ⟨-, -, hne, htable⟩ := pipe_spec hpipe
  have hreadEnd : (table.close writeEnd).file readEnd = some (.pipe .read) := by
    rw [Descriptors.file_close, Function.update_of_ne hne.symm, htable,
      Function.update_of_ne hne.symm, Function.update_self]
  unfold child Descriptors.dup2
  rw [hpipe]
  dsimp only
  rw [hreadEnd, if_neg (by decide)]
  dsimp only
  split_ifs <;> exact ⟨_, rfl⟩

/-- **The program receives the message** on its standard input exactly if the daemon has one. -/
theorem child_receives_iff (t : Descriptors α) :
    (∀ dup2Succeeds t', child dup2Succeeds t = some t' → ReceivesMessage t') ↔
      t.file stdinFileno ≠ none := by
  constructor
  · intro h hstdin
    obtain ⟨t', ht'⟩ := exists_child t
    have hread := (h true t' ht').stdin
    rw [file_child ht', if_neg fun hc => hc.2 hstdin, hstdin, Option.map_none] at hread
    cases hread
  · intro hstdin dup2Succeeds t' ht'
    refine ⟨?_, fun d => ?_⟩
    · rw [file_child ht', if_pos ⟨rfl, hstdin⟩]
    · rw [file_child ht']
      split_ifs
      · simp
      · cases t.file d <;> simp

/-- A daemon without a standard input starts the program without one. -/
theorem child_without_stdin : ¬ ∀ (t : Descriptors ℕ) dup2Succeeds t',
    child dup2Succeeds t = some t' → ReceivesMessage t' := by
  intro h
  have hread := (h .empty true _ rfl).stdin
  exact absurd hread (by decide)

/-- **The descriptors of the daemon** are what they were. -/
theorem file_parent (t : Descriptors α) (d : ℕ) :
    (parent t).file d = (t.file d).map .other := by
  rcases hpipe : pipe t with ⟨readEnd, writeEnd, table⟩
  obtain ⟨hread, hwrite, hne, htable⟩ := pipe_spec hpipe
  have hfree : t.file readEnd = none := hread ▸ t.file_lowestFree
  unfold parent
  rw [hpipe]
  dsimp only
  rw [Descriptors.file_close, Descriptors.file_close, htable]
  by_cases hd : d = writeEnd
  · rw [hd, Function.update_self, hwrite, Option.map_none]
  by_cases hd' : d = readEnd
  · rw [hd', Function.update_of_ne hne.symm, Function.update_self, hfree, Option.map_none]
  · rw [Function.update_of_ne hd, Function.update_of_ne hd', Function.update_of_ne hd,
      Function.update_of_ne hd', Descriptors.file_map]

/-! ### The program -/

/-- A child, with the descriptors that the daemon has, and what the calls of the child come to. -/
structure ChildRun (α : Type u) where
  /-- The descriptors of the daemon. -/
  descriptors : Descriptors α
  /-- `dup2` succeeds. -/
  dup2Succeeds : Bool
  /-- `execl` succeeds. -/
  execlSucceeds : Bool

/-- What a program finds on its standard input, if that is the pipe to which the message is handed
over. -/
def standardInput (t : Descriptors (OpenFile α)) (message : Bytes) : Option Bytes :=
  match t.file stdinFileno with
  | some (.pipe .read) => some message
  | _ => none

namespace ChildRun

/-- The descriptors of the program, if it is executed. -/
def program (c : ChildRun α) : Option (Descriptors (OpenFile α)) :=
  match child c.dup2Succeeds c.descriptors with
  | none => none
  | some t => if c.execlSucceeds then some t else none

/-- The status with which the child exits itself, if the program is not executed. -/
def exitStatus (c : ChildRun α) : Option UInt8 :=
  match child c.dup2Succeeds c.descriptors with
  | none => some 126
  | some _ => if c.execlSucceeds then none else some 127

/-- What the program reads, if it reads its standard input to the end. -/
def reads (c : ChildRun α) (message : Bytes) : Bytes :=
  (c.program.bind fun t => standardInput t message).getD []

/-- `waitpid` tells the status of a child that exits itself. -/
def StatusTold (c : ChildRun α) (waits : List WaitResult) : Prop :=
  ∀ status told, c.exitStatus = some status → childStatus waits = some (.exited told) →
    told = status

variable {c : ChildRun α}

/-- **The program** finds the message on its standard input exactly if the daemon has one. -/
theorem standardInput_program (h : c.program = some t') (message : Bytes) :
    standardInput t' message =
      if c.descriptors.file stdinFileno = none then none else some message := by
  unfold program at h
  cases hchild : child c.dup2Succeeds c.descriptors with
  | none =>
    rw [hchild] at h
    cases h
  | some t =>
    rw [hchild] at h
    dsimp only at h
    split_ifs at h
    obtain rfl := Option.some.inj h
    rw [standardInput, file_child hchild]
    by_cases hstdin : c.descriptors.file stdinFileno = none
    · rw [if_neg fun hc => hc.2 hstdin, if_pos hstdin, hstdin, Option.map_none]
    · rw [if_pos ⟨rfl, hstdin⟩, if_neg hstdin]

/-- The program reads the whole message, or nothing of it. -/
theorem reads_eq (c : ChildRun α) (message : Bytes) : c.reads message =
    if c.program = none ∨ c.descriptors.file stdinFileno = none then [] else message := by
  unfold reads
  cases hprogram : c.program with
  | none => simp
  | some t =>
    rw [Option.bind_some, standardInput_program hprogram]
    by_cases hstdin : c.descriptors.file stdinFileno = none <;> simp [hstdin]

/-- A child that is known to have exited with 0 has executed the program. -/
theorem program_ne_none {waits : List WaitResult} (htold : c.StatusTold waits)
    (hzero : childStatus waits = some (.exited 0)) : c.program ≠ none := by
  intro hnone
  unfold StatusTold exitStatus at htold
  unfold program at hnone
  cases hchild : child c.dup2Succeeds c.descriptors with
  | none =>
    rw [hchild] at htold
    exact absurd (htold 126 0 rfl hzero) (by decide)
  | some t =>
    rw [hchild] at htold hnone
    dsimp only at htold hnone
    split_ifs at htold hnone with hexec
    exact absurd (htold 127 0 rfl hzero) (by decide)

end ChildRun

end EdgeSentinel.Monitor
