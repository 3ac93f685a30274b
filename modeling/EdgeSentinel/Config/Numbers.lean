import EdgeSentinel.CLib.Numerals
import EdgeSentinel.Config.Model

/-!
# Whole numbers in a configuration file

`parse_unsigned_int` and `parse_unsigned_long` read their numbers with `strtoul`, which skips
blanks, takes a sign, stops at the first byte that is no digit, and saturates. Their own guards
leave of this a text of decimal digits and a bound.

## The model

* `parseUnsignedIntInto`, `parseUnsignedLongInto` — the two functions with their result variable:
  whether they return 0, and what the variable holds then. The type `unsigned long` has `w` bits.
* `ReadsDigits` — what such a function is for.

## What is proved

* `readsDigits_parseUnsigned` — **what is accepted**, for every width of `unsigned long`.
-/

namespace EdgeSentinel.Config

open CLib

/-- `parse_unsigned_int`, with its result variable. -/
def parseUnsignedIntInto (max : ℕ) (text : Bytes) (result : ℕ) : Bool × ℕ :=
  if text = [] then (false, result)
  else if ¬ (text.head?.any isdigit) then (false, result)
  else
    let (value, rest, range) := strtoul max text
    if rest = text ∨ rest ≠ [] ∨ range ∨ uintMax < value then (false, result)
    else (true, value % (uintMax + 1))

/-- `parse_unsigned_long`, with its result variable. -/
def parseUnsignedLongInto (max : ℕ) (text : Bytes) (result : ℕ) : Bool × ℕ :=
  if text = [] then (false, result)
  else if ¬ (text.head?.any isdigit) then (false, result)
  else
    let (value, rest, range) := strtoul max text
    if rest = text ∨ rest ≠ [] ∨ range then (false, result) else (true, value)

variable {max : ℕ} {text : Bytes}

/-! ### What is accepted -/

/-- A text that begins with a digit, as the guards ask for it. -/
theorem any_head?_iff :
    text.head?.any isdigit = true ↔ ∃ b, text.head? = some b ∧ isdigit b = true :=
  Option.any_eq_true _ _

/-- Digits begin with a digit. -/
theorem any_head?_of_digitString (h : DigitString text) : text.head?.any isdigit = true :=
  any_head?_iff.mpr (digitString_iff.mp h).1

/-- What is stored is what the branches of `config_set_value` see. -/
theorem parseUnsignedLongInto_eq (max : ℕ) (text : Bytes) (result : ℕ) :
    parseUnsignedLongInto max text result =
      match parseUnsignedLong max text with
      | none => (false, result)
      | some value => (true, value) := by
  unfold parseUnsignedLongInto parseUnsignedLong
  rcases strtoul max text with ⟨value, rest, range⟩
  dsimp only
  split_ifs <;> rfl

theorem parseUnsignedIntInto_eq (max : ℕ) (text : Bytes) (result : ℕ) :
    parseUnsignedIntInto max text result =
      match parseUnsignedInt max text with
      | none => (false, result)
      | some value => (true, value) := by
  unfold parseUnsignedIntInto parseUnsignedInt
  rcases strtoul max text with ⟨value, rest, range⟩
  dsimp only
  split_ifs with hnil hdigit hbad
  · rfl
  · rfl
  · -- the number is not too large, so that the cast keeps it
    simp only [not_or, not_lt] at hbad
    rw [Nat.mod_eq_of_lt (Nat.lt_succ_of_le hbad.2.2.2)]
  · rfl

theorem parseUnsignedLong_eq (max : ℕ) (text : Bytes) :
    parseUnsignedLong max text =
      if DigitString text ∧ decimalValue text ≤ max then some (decimalValue text) else none := by
  unfold parseUnsignedLong
  by_cases h : DigitString text ∧ decimalValue text ≤ max
  · rw [if_pos h, if_neg h.1.1, if_neg (not_not.mpr (any_head?_of_digitString h.1)),
      strtoul_digitString h.1 h.2]
    exact if_neg (by simp [h.1.1.symm])
  · rw [if_neg h]
    split_ifs with hnil hdigit
    · rfl
    · refine if_pos ?_
      by_contra hgood
      simp only [not_or, not_not, Bool.not_eq_true] at hgood
      exact h ((strtoul_whole_iff (any_head?_iff.mp hdigit)).mp hgood.2)
    · rfl

/-- The type `unsigned long` is wide enough for what `parse_unsigned_int` accepts. -/
theorem parseUnsignedInt_eq (hmax : uintMax ≤ max) (text : Bytes) :
    parseUnsignedInt max text =
      if DigitString text ∧ decimalValue text ≤ uintMax then some (decimalValue text) else none := by
  have hlong : parseUnsignedInt max text =
      (parseUnsignedLong max text).filter fun value => decide (value ≤ uintMax) := by
    unfold parseUnsignedInt parseUnsignedLong
    rcases strtoul max text with ⟨value, rest, range⟩
    dsimp only
    split_ifs <;> simp_all [Option.filter]
  rw [hlong, parseUnsignedLong_eq]
  by_cases h : DigitString text ∧ decimalValue text ≤ max
  · rw [if_pos h]
    by_cases hle : decimalValue text ≤ uintMax
    · rw [if_pos ⟨h.1, hle⟩]
      exact if_pos (decide_eq_true hle)
    · rw [if_neg fun hc => hle hc.2]
      exact if_neg (by simpa using hle)
  · rw [if_neg h, if_neg fun hc => h ⟨hc.1, hc.2.trans hmax⟩]
    rfl

/-- A reader of the digits of a number that is at most `bound`: -/
structure ReadsDigits (bound : ℕ) (text : Bytes) (result : ℕ) (outcome : Bool × ℕ) : Prop where
  /-- it accepts one or more digits with such a value, and nothing else, -/
  accepts_iff : outcome.1 = true ↔ DigitString text ∧ decimalValue text ≤ bound
  /-- it stores the value, -/
  value : outcome.1 = true → outcome.2 = decimalValue text
  /-- and a text that it does not accept changes nothing. -/
  unchanged : outcome.1 = false → outcome.2 = result

theorem readsDigits_of_eq {bound result : ℕ} {read : Option ℕ} {outcome : Bool × ℕ}
    (hstored : outcome = match read with
      | none => (false, result)
      | some value => (true, value))
    (hread : read = if DigitString text ∧ decimalValue text ≤ bound then some (decimalValue text)
      else none) : ReadsDigits bound text result outcome := by
  subst hstored
  rw [hread]
  split_ifs with hgood
  · exact ⟨iff_of_true rfl hgood, fun _ => rfl, nofun⟩
  · exact ⟨iff_of_false Bool.false_ne_true hgood, nofun, fun _ => rfl⟩

/-- **Whole numbers**: for every width of `unsigned long`, the two functions read the digits of the
numbers of their types, and nothing else. -/
theorem readsDigits_parseUnsigned (w : ℕ) (hw : 32 ≤ w) (text : Bytes) (result : ℕ) :
    ReadsDigits uintMax text result (parseUnsignedIntInto (2 ^ w - 1) text result) ∧
      ReadsDigits (2 ^ w - 1) text result (parseUnsignedLongInto (2 ^ w - 1) text result) := by
  have hmax : uintMax ≤ 2 ^ w - 1 := Nat.sub_le_sub_right (Nat.pow_le_pow_right (by decide) hw) 1
  exact ⟨readsDigits_of_eq (parseUnsignedIntInto_eq _ text result) (parseUnsignedInt_eq hmax text),
    readsDigits_of_eq (parseUnsignedLongInto_eq _ text result) (parseUnsignedLong_eq _ text)⟩

/-- On a machine of 32 bits, a number with zeros in front. -/
theorem readsDigits_parseUnsigned_zeros :
    ReadsDigits uintMax (ascii "007") 1 (parseUnsignedIntInto (2 ^ 32 - 1) (ascii "007") 1) ∧
      ReadsDigits (2 ^ 32 - 1) (ascii "007") 1
        (parseUnsignedLongInto (2 ^ 32 - 1) (ascii "007") 1) :=
  readsDigits_parseUnsigned 32 (le_refl _) _ _

end EdgeSentinel.Config
