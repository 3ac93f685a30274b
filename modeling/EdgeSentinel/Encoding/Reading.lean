import EdgeSentinel.CLib.Split
import EdgeSentinel.Encoding.JsonPrintf

/-!
# Reading back what was printed

A text that `printf` has made of words and numbers is read from its front, word by word: a word is
known, and a number goes as far as its bytes do. A string can hold anything, words and numbers
too; what stands in front of it is read from the front, and what stands behind it is found by a
byte that none of that has, from the end (`strchr_eq_some_iff`, `strrchr_eq_some_iff`).

## What is proved

* `readNumber_decimal`, `readNumber_decimalInt`, `readNumber_fixed2` — a number is read back, and a
  double as what it is rounded to.
* `not_mem_number` — a byte that stands in no number marks the end of one.
* `readBlankPadded_padLeft` — a number is read behind the blanks that fill its width.
* `readLast_append` — a label whose last byte does not stand behind it is found from the end.
-/

namespace EdgeSentinel.Encoding

open CLib

variable {t : Bytes}

/-! ### Words -/

/-- The value of the first of these words that a text begins with, and the text behind it. -/
def readWord {α : Type*} (words : List (Bytes × α)) (s : Bytes) : Option (α × Bytes) :=
  words.findSome? fun w => (scanLiteral w.1 s).map fun t => (w.2, t)

/-! ### Numbers -/

/-- A number, and the text behind it. -/
def readNumber (s : Bytes) : Option (ℚ × Bytes) :=
  (Json.numberValue (s.takeWhile Json.isNumberByte)).map fun q =>
    (q, s.dropWhile Json.isNumberByte)

theorem readNumber_lexeme (n : Json.NumberLiteral) (ht : Json.NumberEnds t) :
    readNumber (n.lexeme ++ t) = some (n.value, t) := by
  obtain ⟨htake, hdrop⟩ := takeWhile_dropWhile_append n.isNumberByte_of_mem ht
  rw [readNumber, htake, hdrop, n.numberValue_eq, Option.map_some]

/-- `%u`, `%lu` and `%llu`. -/
theorem readNumber_decimal (n : ℕ) (ht : Json.NumberEnds t) :
    readNumber (decimal n ++ t) = some ((n : ℚ), t) := readNumber_lexeme (.ofNat n) ht

/-- `%d`. -/
theorem readNumber_decimalInt (z : ℤ) (ht : Json.NumberEnds t) :
    readNumber (decimalInt z ++ t) = some ((z : ℚ), t) := readNumber_lexeme (.ofInt z) ht

/-- `%.2f`, of a finite double. -/
theorem readNumber_fixed2 {d : Double} {q : ℚ} (hd : d.value? = some q) (ht : Json.NumberEnds t) :
    readNumber (fixed2 d ++ t) = some (round2 q, t) := by
  have hfinite : d.IsFinite := Option.isSome_iff_exists.mpr ⟨q, hd⟩
  rw [← Json.NumberLiteral.lexeme_ofDouble hfinite, readNumber_lexeme _ ht,
    Json.NumberLiteral.value_ofDouble hd]

theorem numberEnds_nil : Json.NumberEnds [] := fun _ h => by cases h

/-- A number ends where a word begins. -/
theorem numberEnds_word {word : Bytes} (h : word.head?.any (fun b => ! Json.isNumberByte b) = true)
    (t : Bytes) : Json.NumberEnds (word ++ t) := by
  intro c hc
  obtain ⟨b, hb, hnot⟩ := (Option.any_eq_true _ _).mp h
  rw [List.head?_append, hb, Option.some_or] at hc
  obtain rfl := Option.some.inj hc
  simpa using hnot

/-- What stands in no number stands in none of these. -/
theorem not_mem_number {b : UInt8} (h : Json.isNumberByte b = false) :
    (∀ n : ℕ, b ∉ decimal n) ∧ (∀ z : ℤ, b ∉ decimalInt z) ∧ ∀ q : ℚ, b ∉ fixed2 (.finite q) := by
  have hnot : ∀ n : Json.NumberLiteral, b ∉ n.lexeme := by
    intro n hb
    rw [n.isNumberByte_of_mem b hb] at h
    cases h
  refine ⟨fun n => hnot (.ofNat n), fun z => hnot (.ofInt z), fun q => ?_⟩
  have hfinite : Double.IsFinite (.finite q) := rfl
  exact Json.NumberLiteral.lexeme_ofDouble hfinite ▸ hnot (.ofDouble _)

/-! ### Widths -/

/-- `%ws`: blanks in front fill the width. -/
def padLeft (width : ℕ) (s : Bytes) : Bytes := List.replicate (width - s.length) 0x20 ++ s

/-- `%-ws`: blanks behind it do. -/
def padRight (width : ℕ) (s : Bytes) : Bytes := s ++ List.replicate (width - s.length) 0x20

/-- A number behind blanks, and the text behind it. -/
def readBlankPadded (s : Bytes) : Option (ℚ × Bytes) := readNumber (s.dropWhile (· = 0x20))

/-- What is printed with two decimals has bytes of numbers only. -/
theorem isNumberByte_of_mem_fixed2 {d : Double} (hd : d.IsFinite) :
    ∀ b ∈ fixed2 d, Json.isNumberByte b = true := by
  rw [← Json.NumberLiteral.lexeme_ofDouble hd]
  exact (Json.NumberLiteral.ofDouble d).isNumberByte_of_mem

/-- **A number** is read behind the blanks that fill its width. -/
theorem readBlankPadded_padLeft {d : Double} {q : ℚ} (width : ℕ) (hd : d.value? = some q)
    (ht : Json.NumberEnds t) : readBlankPadded (padLeft width (fixed2 d) ++ t) =
      some (round2 q, t) := by
  have hfinite : d.IsFinite := Option.isSome_iff_exists.mpr ⟨q, hd⟩
  have hblanks : ∀ b ∈ List.replicate (width - (fixed2 d).length) (0x20 : UInt8),
      decide (b = 0x20) = true := fun b hb => by rw [List.eq_of_mem_replicate hb]; rfl
  have hstop : ∀ b, (fixed2 d ++ t).head? = some b → decide (b = 0x20) = false := by
    intro b hb
    rw [decide_eq_false_iff_not]
    rintro rfl
    rw [List.head?_append] at hb
    cases hhead : (fixed2 d).head? with
    | some c =>
      rw [hhead] at hb
      obtain rfl := Option.some.inj hb
      exact absurd (isNumberByte_of_mem_fixed2 hfinite _ (List.mem_of_head? hhead)) (by decide)
    | none =>
      -- a number is not empty
      have hread := readNumber_fixed2 hd numberEnds_nil
      rw [List.head?_eq_none_iff.mp hhead] at hread
      cases hread
  have hdrop := (takeWhile_dropWhile_append hblanks hstop).2
  rw [readBlankPadded, padLeft, List.append_assoc, hdrop, readNumber_fixed2 hd ht]

/-- The blanks behind a text are taken away. -/
theorem rdropWhile_padRight {s : Bytes} (width : ℕ) (h : s.getLast? ≠ some 0x20) :
    (padRight width s).rdropWhile (· = 0x20) = s := by
  rw [padRight]
  generalize width - s.length = n
  induction n with
  | zero =>
    rw [List.replicate_zero, List.append_nil, List.rdropWhile_eq_self_iff]
    intro hne hblank
    rw [decide_eq_true_iff] at hblank
    exact h (hblank ▸ List.getLast?_eq_some_getLast hne)
  | succ n ih =>
    rwa [List.replicate_succ', ← List.append_assoc, List.rdropWhile_concat_pos _ _ _ rfl]

/-! ### Labels, from the end -/

/-- The text in front of the last label, which ends with the byte `stop`, and the text behind
it. -/
def readLast (label : Bytes) (stop : UInt8) (s : Bytes) : Option (Bytes × Bytes) := do
  let (front, behind) ← strrchr stop s
  if label <:+ front then some (front.take (front.length - label.length), behind) else none

/-- **A label** is found from the end, whatever stands in front of it. -/
theorem readLast_append (label : Bytes) {behind : Bytes} {stop : UInt8} (h : stop ∉ behind)
    (s : Bytes) :
    readLast label stop (s ++ (label ++ stop :: behind)) = some (s, behind) := by
  have hcut : strrchr stop (s ++ (label ++ stop :: behind)) = some (s ++ label, behind) :=
    strrchr_eq_some_iff.mpr ⟨by rw [List.append_assoc], h⟩
  rw [readLast, hcut]
  show (if label <:+ s ++ label then _ else _) = _
  rw [if_pos (List.suffix_append _ _), List.length_append, Nat.add_sub_cancel, List.take_left]

end EdgeSentinel.Encoding
