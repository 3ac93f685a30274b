import EdgeSentinel.CLib.Strings
import Mathlib.Data.Prod.Lex
import Mathlib.Data.Rat.Floor
import Mathlib.Algebra.Order.Field.Rat

/-!
# Numbers of the C library

`double`, and the functions of `<stdlib.h>` and `<stdio.h>` that read numbers from
text: `strtoul`, `strtol`, `strtod` and the conversions of `scanf`.

## The model

* A finite `double` is the rational number it stands for: arithmetic is exact, and
  rounding is not modelled. The values that are no numbers are kept: the infinities
  and NaN, which compares false to everything, and `-0.0`, which is `0` but prints
  its sign.
* The integer readers are given the largest value of their type, so that one
  definition serves every width. They return the value, the text behind it (all of
  the text if there is no number) and whether `errno` was set to `ERANGE`.
-/

namespace EdgeSentinel.CLib

/-- A `double`, whose arithmetic is exact here. -/
inductive Double where
  /-- Not a number. -/
  | nan
  /-- Infinity, negative or positive. -/
  | inf (negative : Bool)
  /-- `-0.0`. -/
  | negZero
  /-- The number `q`. -/
  | finite (q : ℚ)
  deriving DecidableEq, Repr

namespace Double

/-- The value of a finite double. -/
def value? : Double → Option ℚ
  | .nan | .inf _ => none
  | .negZero => some 0
  | .finite q => some q

/-- `isfinite`. -/
def IsFinite (d : Double) : Prop := d.value?.isSome

instance (d : Double) : Decidable d.IsFinite := inferInstanceAs (Decidable (d.value?.isSome = true))

/-- Where a double that is not NaN lies: left of the numbers, among them, or right of
them. -/
def place? : Double → Option (ℤ × ℚ)
  | .nan => none
  | .inf true => some (-1, 0)
  | .negZero => some (0, 0)
  | .finite q => some (0, q)
  | .inf false => some (1, 0)

/-- `a < b`. -/
def lt (a b : Double) : Bool :=
  match a.place?, b.place? with
  | some (i, p), some (j, q) => i < j || (i = j && p < q)
  | _, _ => false

/-- `a <= b`. -/
def le (a b : Double) : Bool :=
  match a.place?, b.place? with
  | some (i, p), some (j, q) => i < j || (i = j && p ≤ q)
  | _, _ => false

@[simp] theorem lt_finite (p q : ℚ) : lt (.finite p) (.finite q) = decide (p < q) := by
  simp [lt, place?]

@[simp] theorem le_finite (p q : ℚ) : le (.finite p) (.finite q) = decide (p ≤ q) := by
  simp [le, place?]

variable {a b c : Double}

/-- A double that is not NaN has a place. -/
theorem exists_place (h : a ≠ .nan) : ∃ x, a.place? = some x := by
  cases a with
  | nan => exact absurd rfl h
  | inf negative => cases negative <;> exact ⟨_, rfl⟩
  | negZero => exact ⟨_, rfl⟩
  | finite q => exact ⟨_, rfl⟩

/-- Doubles are compared by their places. -/
theorem lt_iff_place {x y : ℤ × ℚ} (ha : a.place? = some x) (hb : b.place? = some y) :
    a.lt b = true ↔ toLex x < toLex y := by
  rw [Prod.Lex.lt_iff, lt, ha, hb]
  simp

theorem le_iff_place {x y : ℤ × ℚ} (ha : a.place? = some x) (hb : b.place? = some y) :
    a.le b = true ↔ toLex x ≤ toLex y := by
  rw [Prod.Lex.le_iff, le, ha, hb]
  simp

/-- Two numbers can be compared. -/
theorem not_lt_iff (ha : a ≠ .nan) (hb : b ≠ .nan) : ¬ a.lt b = true ↔ b.le a = true := by
  obtain ⟨x, hx⟩ := exists_place ha
  obtain ⟨y, hy⟩ := exists_place hb
  rw [lt_iff_place hx hy, le_iff_place hy hx, not_lt]

theorem not_le_iff (ha : a ≠ .nan) (hb : b ≠ .nan) : ¬ a.le b = true ↔ b.lt a = true := by
  obtain ⟨x, hx⟩ := exists_place ha
  obtain ⟨y, hy⟩ := exists_place hb
  rw [le_iff_place hx hy, lt_iff_place hy hx, not_le]

/-- What is compared to something is not NaN. -/
theorem ne_nan_of_lt (h : a.lt b = true) : a ≠ .nan ∧ b ≠ .nan := by
  constructor
  · rintro rfl
    cases h
  · rintro rfl
    unfold lt at h
    cases hx : a.place? <;> rw [hx] at h <;> cases h

theorem ne_nan_of_le (h : a.le b = true) : a ≠ .nan ∧ b ≠ .nan := by
  constructor
  · rintro rfl
    cases h
  · rintro rfl
    unfold le at h
    cases hx : a.place? <;> rw [hx] at h <;> cases h

theorem lt_of_le_of_lt (hab : a.le b = true) (hbc : b.lt c = true) : a.lt c = true := by
  obtain ⟨x, hx⟩ := exists_place (ne_nan_of_le hab).1
  obtain ⟨y, hy⟩ := exists_place (ne_nan_of_le hab).2
  obtain ⟨z, hz⟩ := exists_place (ne_nan_of_lt hbc).2
  rw [le_iff_place hx hy] at hab
  rw [lt_iff_place hy hz] at hbc
  exact (lt_iff_place hx hz).mpr (hab.trans_lt hbc)

theorem lt_of_lt_of_le (hab : a.lt b = true) (hbc : b.le c = true) : a.lt c = true := by
  obtain ⟨x, hx⟩ := exists_place (ne_nan_of_lt hab).1
  obtain ⟨y, hy⟩ := exists_place (ne_nan_of_lt hab).2
  obtain ⟨z, hz⟩ := exists_place (ne_nan_of_le hbc).2
  rw [lt_iff_place hx hy] at hab
  rw [le_iff_place hy hz] at hbc
  exact (lt_iff_place hx hz).mpr (hab.trans_le hbc)

theorem le_of_lt (h : a.lt b = true) : a.le b = true := by
  obtain ⟨x, hx⟩ := exists_place (ne_nan_of_lt h).1
  obtain ⟨y, hy⟩ := exists_place (ne_nan_of_lt h).2
  rw [lt_iff_place hx hy] at h
  exact (le_iff_place hx hy).mpr h.le

end Double

/-! ### Integers -/

/-- The value of a string of decimal digits. -/
def decimalValue (digits : Bytes) : ℕ := digits.foldl (fun v b => 10 * v + digitValue b) 0

/-- An optional sign, and the text behind it. -/
def signOf : Bytes → Bool × Bytes
  | 0x2d :: s => (true, s)
  | 0x2b :: s => (false, s)
  | s => (false, s)

/-- `strtoul(s, &end, 10)` and its longer and shorter siblings, for an unsigned type
with largest value `max`. A value that is too large saturates and sets `ERANGE`; a
minus sign negates the value in the unsigned type. -/
def strtoul (max : ℕ) (s : Bytes) : ℕ × Bytes × Bool :=
  let (negative, t) := signOf (s.dropWhile isspace)
  let digits := t.takeWhile isdigit
  if digits = [] then (0, s, false)
  else
    let v := decimalValue digits
    let rest := t.dropWhile isdigit
    if max < v then (max, rest, true)
    else if negative then ((max + 1 - v) % (max + 1), rest, false)
    else (v, rest, false)

/-- `strtol(s, &end, 10)`, for a signed type with largest value `max`. -/
def strtol (max : ℕ) (s : Bytes) : ℤ × Bytes × Bool :=
  let (negative, t) := signOf (s.dropWhile isspace)
  let digits := t.takeWhile isdigit
  if digits = [] then (0, s, false)
  else
    let v := decimalValue digits
    let rest := t.dropWhile isdigit
    if negative then
      if max + 1 < v then (-(max + 1 : ℤ), rest, true) else (-(v : ℤ), rest, false)
    else if max < v then ((max : ℤ), rest, true)
    else ((v : ℤ), rest, false)

/-- `ULONG_MAX` and `ULLONG_MAX`: `unsigned long` has 64 bits. -/
def ulongMax : ℕ := 2 ^ 64 - 1

/-- `LONG_MAX`. -/
def longMax : ℕ := 2 ^ 63 - 1

/-- `UINT_MAX`. -/
def uintMax : ℕ := 2 ^ 32 - 1

/-- `INT_MAX`. -/
def intMax : ℕ := 2 ^ 31 - 1

/-! ### Floating point -/

/-- A letter, made lower case. -/
def tolower (b : UInt8) : UInt8 := if 0x41 ≤ b && b ≤ 0x5a then b + 0x20 else b

/-- The text behind `word`, in any mixture of cases, at the start of `s`. -/
def dropWord (word s : Bytes) : Option Bytes :=
  if (s.take word.length).map tolower = word then some (s.drop word.length) else none

/-- `isxdigit`. -/
def isxdigit (b : UInt8) : Bool := isdigit b || (0x61 ≤ tolower b && tolower b ≤ 0x66)

/-- The value of a hexadecimal digit. -/
def xdigitValue (b : UInt8) : ℕ := if isdigit b then digitValue b else (tolower b).toNat - 0x57

/-- An exponent introduced by the letter `e`: its value and the text behind it. Without
digits there is no exponent, and nothing is read. -/
def exponentOf (e : UInt8) (s : Bytes) : ℤ × Bytes :=
  match s with
  | b :: t =>
    let (negative, u) := signOf t
    let digits := u.takeWhile isdigit
    if tolower b = e && digits ≠ [] then
      (if negative then -(decimalValue digits : ℤ) else decimalValue digits, u.dropWhile isdigit)
    else (0, s)
  | [] => (0, [])

/-- Digits of base `base` with an optional point: their number without the point, how
many stand behind the point, and the text behind them. -/
def mantissaOf (base : ℕ) (isDigit : UInt8 → Bool) (valueOf : UInt8 → ℕ) (s : Bytes) :
    Option (ℕ × ℕ × Bytes) :=
  let whole := s.takeWhile isDigit
  let rest := s.dropWhile isDigit
  let (fraction, rest) :=
    match rest with
    | 0x2e :: t => if whole = [] && t.takeWhile isDigit = [] then ([], rest)
        else (t.takeWhile isDigit, t.dropWhile isDigit)
    | _ => ([], rest)
  if whole = [] && fraction = [] then none
  else some ((whole ++ fraction).foldl (fun v b => base * v + valueOf b) 0, fraction.length, rest)

/-- A hexadecimal number, from behind its `0x`; `exponent` reads what may follow the digits. -/
def hexadecimalOf (exponent : UInt8 → Bytes → ℤ × Bytes) (s : Bytes) : Option (ℚ × Bytes) := do
  let (v, places, t) ← mantissaOf 16 isxdigit xdigitValue s
  let (e, t) := exponent 0x70 t
  some ((v : ℚ) * 2 ^ (e - 4 * places), t)

/-- A decimal number; `exponent` reads what may follow the digits. -/
def decimalOf (exponent : UInt8 → Bytes → ℤ × Bytes) (s : Bytes) : Option (ℚ × Bytes) := do
  let (v, places, t) ← mantissaOf 10 isdigit digitValue s
  let (e, t) := exponent 0x65 t
  some ((v : ℚ) * 10 ^ (e - places), t)

/-- An unsigned number: a hexadecimal one behind `0x`, or a decimal one. -/
def unsignedNumberOf (s : Bytes) : Option (ℚ × Bytes) :=
  ((dropWord (ascii "0x") s).bind (hexadecimalOf exponentOf)) <|> decimalOf exponentOf s

/-- The text behind `nan`: also behind the `(...)` that may follow it. -/
def dropNanPayload (s : Bytes) : Bytes :=
  match s with
  | 0x28 :: t =>
    match t.dropWhile fun b => isdigit b || (0x61 ≤ tolower b && tolower b ≤ 0x7a) || b = 0x5f with
    | 0x29 :: u => u
    | _ => s
  | _ => s

/-- From here on a number is rounded to infinity. -/
def doubleOverflow : ℚ := 2 ^ 1024 - 2 ^ 970

/-- The least normal number, `DBL_MIN`. -/
def doubleMin : ℚ := 1 / 2 ^ 1022

/-- The number `q`, with a sign, as a double; and whether it is out of range: too large,
or so small that it cannot be represented. -/
def doubleOf (negative : Bool) (q : ℚ) : Double × Bool :=
  if doubleOverflow ≤ q then (.inf negative, true)
  else
    (if negative then if q = 0 then .negZero else .finite (-q) else .finite q,
      decide (0 < q ∧ q < doubleMin ∧ (q * 2 ^ 1074).den ≠ 1))

/-- `strtod(s, &end)`: the number, the text behind it (all of `s` if there is none), and
whether `errno` was set to `ERANGE`. -/
def strtod (s : Bytes) : Double × Bytes × Bool :=
  let (negative, t) := signOf (s.dropWhile isspace)
  match dropWord (ascii "infinity") t <|> dropWord (ascii "inf") t with
  | some rest => (.inf negative, rest, false)
  | none =>
    match dropWord (ascii "nan") t with
    | some rest => (.nan, dropNanPayload rest, false)
    | none =>
      match unsignedNumberOf t with
      | some (q, rest) =>
        let (d, range) := doubleOf negative q
        (d, rest, range)
      | none => (.finite 0, s, false)

/-! ### Conversions of `scanf` -/

/-- White space in a format, and in front of a number. -/
def scanSpace (s : Bytes) : Bytes := s.dropWhile isspace

/-- A literal in a format. -/
def scanLiteral (literal s : Bytes) : Option Bytes :=
  if s.take literal.length = literal then some (s.drop literal.length) else none

/-- `%lu` and `%llu`, and what is left of the input. -/
def scanUnsigned (s : Bytes) : Option (UInt64 × Bytes) :=
  let (v, rest, _) := strtoul ulongMax s
  if rest = s then none else some (UInt64.ofNat v, rest)

/-- `%d`: read as a `long` and cut to an `int`. -/
def scanInt (s : Bytes) : Option (Int32 × Bytes) :=
  let (v, rest, _) := strtol longMax s
  if rest = s then none else some (Int32.ofInt v, rest)

/-- An exponent, as `scanf` reads it: its letter and its sign cannot be put back if no digit
follows them. -/
def scanExponentOf (e : UInt8) (s : Bytes) : ℤ × Bytes :=
  match s with
  | b :: t =>
    if tolower b = e then
      let (negative, u) := signOf t
      let v := decimalValue (u.takeWhile isdigit)
      (if negative then -(v : ℤ) else v, u.dropWhile isdigit)
    else (0, s)
  | [] => (0, [])

/-- `%lf`. Unlike `strtod`, which looks at the whole text, it cannot go back to a shorter number:
behind `0x` there must be hexadecimal digits, and `inf` and one more `i` must become `infinity`. -/
def scanDouble (s : Bytes) : Option (Double × Bytes) :=
  let (negative, t) := signOf (scanSpace s)
  match dropWord (ascii "inf") t with
  | some rest =>
    if rest.head?.map tolower = some 0x69 then
      (dropWord (ascii "inity") rest).map fun rest => (.inf negative, rest)
    else some (.inf negative, rest)
  | none =>
    match dropWord (ascii "nan") t with
    | some rest => some (.nan, rest)
    | none => do
      let (q, rest) ← match dropWord (ascii "0x") t with
        | some u => hexadecimalOf scanExponentOf u
        | none => decimalOf scanExponentOf t
      some ((doubleOf negative q).1, rest)

/-- Several numbers in a row, each read by `scanUnsigned`. -/
def scanUnsigneds : ℕ → Bytes → Option (List UInt64 × Bytes)
  | 0, s => some ([], s)
  | n + 1, s => do
    let (v, s) ← scanUnsigned s
    let (vs, s) ← scanUnsigneds n s
    some (v :: vs, s)

end EdgeSentinel.CLib
