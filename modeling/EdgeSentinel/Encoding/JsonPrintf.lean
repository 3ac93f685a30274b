import EdgeSentinel.Encoding.JsonText

/-!
# JSON printed with `printf`

What `%u`, `%d` and `%.2f` print is the literal of a JSON number: of the number that is
printed, or, for a finite double, of that double rounded to two decimals.
-/

namespace EdgeSentinel.Encoding.Json

open CLib

theorem isNumberByte_of_isdigit {b : UInt8} (h : isdigit b = true) : isNumberByte b = true := by
  simp [isNumberByte, h]

theorem isNumberByte_of_mem_decimal (n : ℕ) : ∀ b ∈ decimal n, isNumberByte b = true :=
  fun b hb => isNumberByte_of_isdigit (isdigit_of_mem_decimal n b hb)

/-- An unsigned number begins with a digit, so no minus sign is taken off it. -/
theorem numberValue_of_digit {b : UInt8} (hb : isdigit b = true) (s : Bytes) :
    numberValue (b :: s) = unsignedValue (b :: s) := by
  unfold numberValue
  split
  · next h =>
    obtain ⟨rfl, -⟩ := List.cons.inj h
    exact absurd hb (by decide)
  · rfl

/-- The digits of a number, with a fraction behind them. -/
theorem unsignedValue_decimal (n : ℕ) {fraction behind s : Bytes} (hs : ∀ b, s.head? = some b →
    isdigit b = false) (hfraction : readFraction s = some (fraction, behind))
    (hbehind : readExponent behind = some 0) :
    unsignedValue (decimal n ++ s) =
      some ((decimalValue (decimal n ++ fraction) : ℚ) * 10 ^ (-(fraction.length : ℤ))) := by
  have htake := takeWhile_dropWhile_append (isdigit_of_mem_decimal n) hs
  have hzero : ¬ (decimal n = [] ∨ ((decimal n).head? = some 0x30 ∧ decimal n ≠ [0x30])) := by
    rintro (h | ⟨h, hne⟩)
    · exact decimal_ne_nil n h
    · rcases eq_or_ne n 0 with rfl | hn
      · exact hne rfl
      · exact head?_decimal hn h
  rw [unsignedValue]
  dsimp only
  rw [htake.1, htake.2, if_neg hzero, hfraction, Option.bind_eq_bind, Option.bind_some, hbehind,
    Option.bind_eq_bind, Option.bind_some, zero_sub]

theorem numberValue_decimal_append (n : ℕ) (s : Bytes) :
    numberValue (decimal n ++ s) = unsignedValue (decimal n ++ s) := by
  cases h : decimal n with
  | nil => exact absurd h (decimal_ne_nil n)
  | cons b t => exact numberValue_of_digit (isdigit_of_mem_decimal n b (by simp [h])) _

theorem unsignedValue_decimal_nil (n : ℕ) : unsignedValue (decimal n) = some (n : ℚ) := by
  have h := unsignedValue_decimal n (s := []) (fun b hb => by cases hb) rfl rfl
  simpa [decimalValue_decimal] using h

theorem numberValue_decimal (n : ℕ) : numberValue (decimal n) = some (n : ℚ) := by
  rw [← List.append_nil (decimal n), numberValue_decimal_append, List.append_nil,
    unsignedValue_decimal_nil]

/-- `%u`, `%llu` and `%zu`. -/
def NumberLiteral.ofNat (n : ℕ) : NumberLiteral where
  lexeme := decimal n
  value := n
  numberValue_eq := numberValue_decimal n
  isNumberByte_of_mem := isNumberByte_of_mem_decimal n

/-- `%d`. -/
def NumberLiteral.ofInt (z : ℤ) : NumberLiteral where
  lexeme := decimalInt z
  value := z
  numberValue_eq := by
    unfold decimalInt
    split_ifs with h
    · show (unsignedValue (decimal z.natAbs)).map _ = _
      rw [unsignedValue_decimal_nil]
      have : (z : ℚ) = -(z.natAbs : ℚ) := by
        have : z = -(z.natAbs : ℤ) := by omega
        exact_mod_cast this
      rw [this]
      rfl
    · rw [numberValue_decimal]
      have : ((z.natAbs : ℤ) : ℚ) = (z : ℚ) := by
        rw [Int.natAbs_of_nonneg (not_lt.mp h)]
      exact congrArg some this
  isNumberByte_of_mem := by
    unfold decimalInt
    split_ifs
    · rw [List.forall_mem_cons]
      exact ⟨by decide, isNumberByte_of_mem_decimal _⟩
    · exact isNumberByte_of_mem_decimal _

/-- The value of a number of hundredths. -/
theorem unsignedValue_twoDecimals (h : ℕ) : unsignedValue (twoDecimals h) = some (h / 100 : ℚ) := by
  have hdigits : isdigit (digitChar (h % 100 / 10)) = true ∧ isdigit (digitChar (h % 10)) = true :=
    ⟨isdigit_digitChar (by omega), isdigit_digitChar (by omega)⟩
  have hfraction : readFraction [0x2e, digitChar (h % 100 / 10), digitChar (h % 10)] =
      some ([digitChar (h % 100 / 10), digitChar (h % 10)], []) := by
    simp [readFraction, hdigits.1, hdigits.2]
  have hread := unsignedValue_decimal (h / 100)
    (fun b hb => by obtain rfl := Option.some.inj hb; decide) hfraction rfl
  have hvalue : decimalValue (decimal (h / 100) ++
      [digitChar (h % 100 / 10), digitChar (h % 10)]) = h := by
    have := decimalValue_decimal (h / 100)
    rw [decimalValue] at this
    rw [decimalValue, List.foldl_append, this, List.foldl_cons, List.foldl_cons, List.foldl_nil,
      digitValue_digitChar (by omega), digitValue_digitChar (by omega)]
    omega
  rw [twoDecimals, hread, hvalue]
  norm_num [div_eq_mul_inv]

theorem isNumberByte_of_mem_twoDecimals (h : ℕ) : ∀ b ∈ twoDecimals h, isNumberByte b = true := by
  rw [twoDecimals, List.forall_mem_append]
  refine ⟨isNumberByte_of_mem_decimal _, ?_⟩
  simp only [List.forall_mem_cons]
  exact ⟨by decide, isNumberByte_of_isdigit (isdigit_digitChar (by omega)),
    isNumberByte_of_isdigit (isdigit_digitChar (by omega)), by simp⟩

/-- `%.2f` of a number that is not negative. -/
def NumberLiteral.ofHundredths (h : ℕ) : NumberLiteral where
  lexeme := twoDecimals h
  value := h / 100
  numberValue_eq := by
    rw [twoDecimals, numberValue_decimal_append]
    exact unsignedValue_twoDecimals h
  isNumberByte_of_mem := isNumberByte_of_mem_twoDecimals h

/-- `%.2f` of a negative number. -/
def NumberLiteral.ofNegHundredths (h : ℕ) : NumberLiteral where
  lexeme := 0x2d :: twoDecimals h
  value := -(h / 100)
  numberValue_eq := by
    show (unsignedValue (twoDecimals h)).map _ = _
    rw [unsignedValue_twoDecimals]
    rfl
  isNumberByte_of_mem := by
    rw [List.forall_mem_cons]
    exact ⟨by decide, isNumberByte_of_mem_twoDecimals h⟩

/-- `%.2f` of a finite double. (What is printed of the others is no JSON.) -/
def NumberLiteral.ofDouble : Double → NumberLiteral
  | .finite q => if q < 0 then .ofNegHundredths (hundredths q) else .ofHundredths (hundredths q)
  | .negZero => .ofNegHundredths 0
  | .nan | .inf _ => .ofHundredths 0

theorem NumberLiteral.lexeme_ofDouble {d : Double} (h : d.IsFinite) :
    (ofDouble d).lexeme = fixed2 d := by
  cases d with
  | nan => cases h
  | inf negative => cases h
  | negZero => rfl
  | finite q =>
    rw [ofDouble, fixed2]
    split_ifs <;> rfl

/-- A finite double rounded to two decimals. -/
theorem NumberLiteral.value_ofDouble {d : Double} {q : ℚ} (h : d.value? = some q) :
    (ofDouble d).value = round2 q := by
  cases d with
  | nan => cases h
  | inf negative => cases h
  | negZero =>
    obtain rfl := Option.some.inj h
    have hzero : hundredths 0 = 0 := by decide
    show -(((0 : ℕ) : ℚ) / 100) = round2 0
    rw [round2, if_neg (lt_irrefl 0), hzero]
    norm_num
  | finite q =>
    obtain rfl := Option.some.inj h
    rw [ofDouble, round2]
    split_ifs <;> rfl

end EdgeSentinel.Encoding.Json
