import Mathlib.Data.Bool.AllAny
import Mathlib.Data.List.TakeWhile
import Mathlib.Data.List.DropRight
import Mathlib.Data.UInt
import Mathlib.Tactic.SplitIfs
import Mathlib.Tactic.Common

/-!
# Strings of the C library

The part of `<string.h>`, `<ctype.h>` and `<stdio.h>` that programs written in C
use on text: bytes, the "C" locale's character classes, fixed buffers with a
terminating NUL, and the functions that cut strings up.

## The model

A string is the list of its bytes, without the terminating NUL. Memory is where
the NUL matters, and there are two views of it.

* `CharArray n` — a buffer `char a[n]` with all of its bytes, terminated or not.
  `CharArray.cstr` reads it as a string (the bytes before the first NUL), and
  `CharArray.store` is `memcpy(a, s, strlen(s) + 1)`: it writes the string and its
  NUL and leaves what is behind them.
* `CString m` — the string in a buffer `char a[m + 1]` that is known to be
  terminated: at most `m` bytes, none of them NUL.
-/

namespace EdgeSentinel.CLib

/-- A sequence of bytes. -/
abbrev Bytes := List UInt8

/-- The bytes of a literal of the source, which is ASCII. -/
def ascii (s : String) : Bytes := s.toList.map fun c => UInt8.ofNat c.toNat

/-- `'\n'`. -/
def newline : UInt8 := 0x0a

/-! ### Character classes of the "C" locale -/

/-- `isspace`: space, `\t`, `\n`, `\v`, `\f`, `\r`. -/
def isspace (b : UInt8) : Bool := b = 0x20 || (0x09 ≤ b && b ≤ 0x0d)

/-- `isdigit`. -/
def isdigit (b : UInt8) : Bool := 0x30 ≤ b && b ≤ 0x39

/-- The value of a decimal digit. -/
def digitValue (b : UInt8) : ℕ := b.toNat - 0x30

/-! ### Strings in memory -/

/-- The C string at the start of a piece of memory: the bytes before the first NUL. -/
def cstr (s : Bytes) : Bytes := s.takeWhile (· ≠ 0)

/-- The bytes of a string are not NUL. -/
theorem zero_not_mem_cstr (s : Bytes) : 0 ∉ cstr s := by
  intro h
  simpa using List.mem_takeWhile_imp h

/-- A string followed by a NUL reads as itself, whatever is behind the NUL. -/
theorem cstr_append_zero {s : Bytes} (h : 0 ∉ s) (t : Bytes) : cstr (s ++ 0 :: t) = s := by
  unfold cstr
  rw [List.takeWhile_append_of_pos fun b hb => by simpa using fun h0 : b = 0 => h (h0 ▸ hb)]
  simp

/-- A NUL in the memory ends its string early. -/
theorem length_cstr_lt {s : Bytes} (h : 0 ∈ s) : (cstr s).length < s.length := by
  have hp := List.takeWhile_prefix (l := s) fun b => decide (b ≠ 0)
  refine lt_of_le_of_ne hp.length_le fun he => ?_
  have : cstr s = s := hp.eq_of_length he
  exact zero_not_mem_cstr s (this.symm ▸ h)

/-- What is behind a NUL is not part of the string. -/
theorem cstr_append_of_mem {s : Bytes} (h : 0 ∈ s) (t : Bytes) : cstr (s ++ t) = cstr s := by
  have hlt := length_cstr_lt h
  unfold cstr at hlt ⊢
  rw [List.takeWhile_append, if_neg hlt.ne]

/-- A string without a NUL is all of itself. -/
theorem cstr_eq_self_iff {s : Bytes} : cstr s = s ↔ 0 ∉ s := by
  constructor
  · intro h h0
    exact absurd (length_cstr_lt h0) (by rw [h]; exact lt_irrefl _)
  · intro h0
    unfold cstr
    rw [List.takeWhile_eq_self_iff]
    intro b hb
    simpa using fun h : b = 0 => h0 (h ▸ hb)

theorem length_cstr_le (s : Bytes) : (cstr s).length ≤ s.length := by
  by_cases h0 : 0 ∈ s
  · exact (length_cstr_lt h0).le
  · rw [cstr_eq_self_iff.mpr h0]

/-- A buffer `char a[n]`: all of its bytes. -/
structure CharArray (n : ℕ) where
  /-- The bytes. -/
  bytes : Bytes
  /-- There are `n` of them. -/
  size_eq : bytes.length = n
  deriving DecidableEq, Repr

namespace CharArray

variable {n : ℕ}

/-- `memset(a, 0, sizeof(a))`. -/
def zero (n : ℕ) : CharArray n := ⟨List.replicate n 0, List.length_replicate⟩

/-- The string in the buffer. -/
def cstr (a : CharArray n) : Bytes := CLib.cstr a.bytes

/-- `memchr(a, '\0', sizeof(a)) != NULL`: the buffer holds a terminated string. -/
def Terminated (a : CharArray n) : Prop := 0 ∈ a.bytes

instance (a : CharArray n) : Decidable a.Terminated := inferInstanceAs (Decidable (0 ∈ a.bytes))

/-- `memcpy(a, s, strlen(s) + 1)`, as far as it stays inside the buffer: the string,
its NUL, and behind them what was there before. -/
def store (a : CharArray n) (s : Bytes) : CharArray n where
  bytes := (s ++ 0 :: a.bytes.drop (s.length + 1)).take n
  size_eq := by
    rw [List.length_take, List.length_append, List.length_cons, List.length_drop, a.size_eq]
    omega

@[simp] theorem cstr_zero (n : ℕ) : (zero n).cstr = [] := by
  cases n with
  | zero => rfl
  | succ n => simp [cstr, CLib.cstr, zero, List.replicate_succ]

theorem zero_not_mem_cstr (a : CharArray n) : 0 ∉ a.cstr := CLib.zero_not_mem_cstr a.bytes

/-- A string that fits is stored whole. -/
theorem bytes_store (a : CharArray n) {s : Bytes} (hs : s.length < n) :
    (a.store s).bytes = s ++ 0 :: a.bytes.drop (s.length + 1) := by
  refine List.take_of_length_le (Nat.le_of_eq ?_)
  rw [List.length_append, List.length_cons, List.length_drop, a.size_eq]
  omega

/-- A string that fits is read back as it was stored. -/
theorem cstr_store (a : CharArray n) {s : Bytes} (h0 : 0 ∉ s) (hs : s.length < n) :
    (a.store s).cstr = s := by
  rw [cstr, bytes_store a hs]
  exact cstr_append_zero h0 _

/-- A string that fits leaves the buffer terminated. -/
theorem terminated_store (a : CharArray n) {s : Bytes} (hs : s.length < n) :
    (a.store s).Terminated := by
  rw [Terminated, bytes_store a hs]
  simp

/-- The string in a terminated buffer is shorter than the buffer. -/
theorem length_cstr_lt {a : CharArray n} (h : a.Terminated) : a.cstr.length < n := by
  have := CLib.length_cstr_lt h
  rwa [a.size_eq] at this

end CharArray

/-- The string in a buffer `char a[m + 1]` that is terminated. -/
structure CString (m : ℕ) where
  /-- The bytes before the NUL. -/
  bytes : Bytes
  /-- None of them is NUL. -/
  zero_not_mem : 0 ∉ bytes
  /-- They and their NUL fit into the buffer. -/
  length_le : bytes.length ≤ m
  deriving DecidableEq, Repr

namespace CString

variable {m : ℕ}

/-- `""`. -/
def empty (m : ℕ) : CString m := ⟨[], by simp, by simp⟩

@[simp] theorem bytes_empty (m : ℕ) : (empty m).bytes = [] := rfl

/-- `snprintf(a, m + 1, "%s", s)`: as much of the string `s` as fits. -/
def snprintf (m : ℕ) (s : Bytes) : CString m where
  bytes := (cstr s).take m
  zero_not_mem := fun h => zero_not_mem_cstr s (List.mem_of_mem_take h)
  length_le := List.length_take_le m _

/-- A string that fits is printed whole. -/
theorem bytes_snprintf {s : Bytes} (h0 : 0 ∉ s) (hs : s.length ≤ m) :
    (snprintf m s).bytes = s := by
  have : cstr s = s := by
    have := cstr_append_zero h0 []
    unfold cstr at this ⊢
    rw [List.takeWhile_eq_self_iff]
    intro b hb
    simpa using fun h : b = 0 => h0 (h ▸ hb)
  rw [snprintf]
  simp only [this]
  exact List.take_of_length_le hs

end CString

/-! ### Cutting strings up -/

/-- What is left of a string after the blanks at both of its ends are cut off: the
usual pointer walk from the front, then a NUL behind the last byte that is no blank. -/
def trim (s : Bytes) : Bytes := (s.dropWhile isspace).rdropWhile isspace

/-- A text that `trim` leaves alone does not begin or end with a space. -/
theorem trim_eq_self_iff {s : Bytes} : trim s = s ↔
    (∀ b, s.head? = some b → isspace b = false) ∧ ∀ b, s.getLast? = some b → isspace b = false := by
  have hdrop : s.dropWhile isspace = s ↔ ∀ b, s.head? = some b → isspace b = false := by
    cases s with
    | nil => simp
    | cons b s => simp [List.dropWhile_eq_self_iff]
  have hrdrop : s.rdropWhile isspace = s ↔ ∀ b, s.getLast? = some b → isspace b = false := by
    rw [List.rdropWhile_eq_self_iff]
    constructor
    · intro h b hb
      have hs : s ≠ [] := by
        rintro rfl
        cases hb
      obtain rfl := Option.some.inj ((List.getLast?_eq_some_getLast hs).symm.trans hb)
      simpa using h hs
    · intro h hs
      simpa using h _ (List.getLast?_eq_some_getLast hs)
  rw [← hdrop, ← hrdrop]
  constructor
  · intro h
    have hfront : s.dropWhile isspace = s := by
      refine (List.dropWhile_suffix _).eq_of_length_le ?_
      have := (List.rdropWhile_prefix isspace (s.dropWhile isspace)).length_le
      rw [← trim, h] at this
      exact this
    refine ⟨hfront, ?_⟩
    rw [trim, hfront] at h
    exact h
  · rintro ⟨h, h'⟩
    rw [trim, h, h']

/-- A trimmed text is left alone. -/
theorem trim_trim (s : Bytes) : trim (trim s) = trim s := by
  have hfront : ∀ b, (s.dropWhile isspace).head? = some b → isspace b = false := by
    intro b hb
    have := List.head?_dropWhile_not isspace s
    rwa [hb] at this
  refine trim_eq_self_iff.mpr ⟨fun b hb => ?_, fun b hb => ?_⟩
  · obtain ⟨t, ht⟩ := List.rdropWhile_prefix isspace (s.dropWhile isspace)
    refine hfront b ?_
    rw [← ht, List.head?_append]
    change (trim s).head?.or _ = _
    rw [hb, Option.some_or]
  · have hne : trim s ≠ [] := by
      rintro he
      rw [he] at hb
      cases hb
    have hlast := List.rdropWhile_last_not isspace (s.dropWhile isspace) hne
    rw [← Option.some.inj ((List.getLast?_eq_some_getLast hne).symm.trans hb)]
    exact eq_false_of_ne_true hlast

/-- A text is cut where its bytes stop being what they were. -/
theorem takeWhile_dropWhile_append {p : UInt8 → Bool} {s t : Bytes} (hs : ∀ b ∈ s, p b = true)
    (ht : ∀ b, t.head? = some b → p b = false) :
    (s ++ t).takeWhile p = s ∧ (s ++ t).dropWhile p = t := by
  have hstop : t.takeWhile p = [] ∧ t.dropWhile p = t := by
    cases t with
    | nil => exact ⟨rfl, rfl⟩
    | cons b t =>
      have hb := ht b rfl
      exact ⟨List.takeWhile_cons_of_neg (by simp [hb]), List.dropWhile_cons_of_neg (by simp [hb])⟩
  rw [List.takeWhile_append_of_pos hs, List.dropWhile_append_of_pos hs, hstop.1, hstop.2,
    List.append_nil]
  exact ⟨rfl, rfl⟩

/-- A text is cut at the first byte of a value. -/
theorem takeWhile_dropWhile_ne {b : UInt8} {s : Bytes} (h : b ∉ s) (t : Bytes) :
    (s ++ b :: t).takeWhile (· ≠ b) = s ∧ (s ++ b :: t).dropWhile (· ≠ b) = b :: t := by
  refine takeWhile_dropWhile_append (fun c hc => ?_) fun c hc => ?_
  · simpa using fun he : c = b => h (he ▸ hc)
  · simp [← Option.some.inj hc]

/-- A byte that stops the scan is not scanned. -/
theorem mem_dropWhile {p : UInt8 → Bool} {b : UInt8} {s : Bytes} (hb : p b = false) (h : b ∈ s) :
    b ∈ s.dropWhile p := by
  rw [← List.takeWhile_append_dropWhile (p := p) (l := s)] at h
  refine (List.mem_append.mp h).resolve_left fun htake => ?_
  rw [List.mem_takeWhile_imp htake] at hb
  cases hb

/-- `strtok(s, sep)`, `strtok(NULL, sep)`, … until NULL: the tokens between
separators; several separators in a row count as one. -/
def strtok (sep : UInt8) (s : Bytes) : List Bytes := (s.splitOn sep).filter (· ≠ [])

/-- `strchr(s, b)`: the bytes before the first `b` and those behind it. -/
def strchr (b : UInt8) (s : Bytes) : Option (Bytes × Bytes) :=
  if b ∈ s then some (s.takeWhile (· ≠ b), (s.dropWhile (· ≠ b)).tail) else none

/-- `strrchr(s, b)`: the bytes before the last `b` and those behind it. -/
def strrchr (b : UInt8) (s : Bytes) : Option (Bytes × Bytes) :=
  (strchr b s.reverse).map fun (behind, before) => (before.reverse, behind.reverse)

/-- What `fgets` reads into a buffer of `size` bytes, call after call, from a stream
that delivers `content`; `line` is what the running call has read so far. -/
def fgetsFrom (size : ℕ) : (content line : Bytes) → List Bytes
  | [], line => if line = [] then [] else [line]
  | b :: content, line =>
    if b = newline ∨ line.length + 2 = size then (line ++ [b]) :: fgetsFrom size content []
    else fgetsFrom size content (line ++ [b])

/-- The pieces `fgets` reads: each ends at a newline, at the end of the stream, or when
the buffer, with its NUL, is full. -/
def fgetsPieces (size : ℕ) (content : Bytes) : List Bytes := fgetsFrom size content []

/-- What `fgets` reads from a stream on which reading fails behind `content`. The call
during which it fails returns NULL: what it has read of its piece is not delivered. -/
def fgetsUntilError (size : ℕ) : (content line : Bytes) → List Bytes
  | [], _ => []
  | b :: content, line =>
    if b = newline ∨ line.length + 2 = size then (line ++ [b]) :: fgetsUntilError size content []
    else fgetsUntilError size content (line ++ [b])

end EdgeSentinel.CLib
