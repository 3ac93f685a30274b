import EdgeSentinel.CLib.Numbers
import Mathlib.Tactic.Linarith
import Mathlib.Tactic.Ring

/-!
# Printing numbers

The conversions of `printf`: `%u`, `%lu`, `%llu` and `%zu` (`decimal`), `%d`
(`decimalInt`), `%0wd` (`padded`), `%04x` (`hex4`) and `%.2f` (`fixed2`), and how
long what they print can be.

`%.2f` prints the exact value of the double rounded to a whole number of hundredths,
to the even one of two equally near (`hundredths`).
-/

namespace EdgeSentinel.CLib

/-- The digit that stands for `d`. -/
def digitChar (d : ℕ) : UInt8 := UInt8.ofNat (0x30 + d)

theorem isdigit_digitChar {d : ℕ} (h : d < 10) : isdigit (digitChar d) = true := by
  have : ∀ d < 10, isdigit (digitChar d) = true := by decide
  exact this d h

theorem digitValue_digitChar {d : ℕ} (h : d < 10) : digitValue (digitChar d) = d := by
  have : ∀ d < 10, digitValue (digitChar d) = d := by decide
  exact this d h

/-! ### Decimal digits -/

/-- The digits of `n` in front of `acc`; `fuel` bounds their number. -/
def decimalFrom : (fuel n : ℕ) → Bytes → Bytes
  | 0, _, acc => acc
  | fuel + 1, n, acc =>
    if n < 10 then digitChar n :: acc else decimalFrom fuel (n / 10) (digitChar (n % 10) :: acc)

/-- `%u`, `%lu`, `%llu`, `%zu`. -/
def decimal (n : ℕ) : Bytes := decimalFrom (n + 1) n []

/-- Enough fuel prints every digit, in front of what is there. -/
theorem decimalFrom_eq : ∀ (fuel : ℕ) {n : ℕ} (acc : Bytes), n < fuel →
    decimalFrom fuel n acc = decimal n ++ acc := by
  intro fuel
  induction fuel using Nat.strong_induction_on with
  | _ fuel ih =>
    intro n acc hn
    obtain ⟨fuel, rfl⟩ : ∃ f, fuel = f + 1 := ⟨fuel - 1, by omega⟩
    by_cases h10 : n < 10
    · simp [decimal, decimalFrom, h10]
    · have hlt : n / 10 < n := Nat.div_lt_self (by omega) (by omega)
      have h₁ := ih fuel (by omega) (digitChar (n % 10) :: acc) (n := n / 10) (by omega)
      have h₂ : decimal n = decimal (n / 10) ++ [digitChar (n % 10)] := by
        rw [decimal, decimalFrom, if_neg h10]
        rcases Nat.lt_or_ge n fuel with hf | hf
        · exact ih n (by omega) [digitChar (n % 10)] hlt
        · obtain rfl : n = fuel := by omega
          exact ih n (by omega) [digitChar (n % 10)] hlt
      rw [decimalFrom, if_neg h10, h₁, h₂, List.append_assoc, List.singleton_append]

/-- A number with one digit. -/
theorem decimal_of_lt {n : ℕ} (h : n < 10) : decimal n = [digitChar n] := by
  simp [decimal, decimalFrom, h]

/-- A longer number: its last digit stands behind the others. -/
theorem decimal_of_le {n : ℕ} (h : 10 ≤ n) :
    decimal n = decimal (n / 10) ++ [digitChar (n % 10)] := by
  rw [decimal, decimalFrom, if_neg (by omega)]
  exact decimalFrom_eq n _ (Nat.div_lt_self (by omega) (by omega))

/-- Induction on the digits of a number, from the first to the last. -/
theorem decimal_induction {P : ℕ → Prop} (one : ∀ n < 10, P n)
    (more : ∀ n, 10 ≤ n → P (n / 10) → P n) (n : ℕ) : P n := by
  induction n using Nat.strong_induction_on with
  | _ n ih =>
    by_cases h : n < 10
    · exact one n h
    · exact more n (by omega) (ih (n / 10) (Nat.div_lt_self (by omega) (by omega)))

/-- Only digits are printed. -/
theorem isdigit_of_mem_decimal (n : ℕ) : ∀ b ∈ decimal n, isdigit b = true := by
  induction n using decimal_induction with
  | one n h => rw [decimal_of_lt h]; simpa using isdigit_digitChar h
  | more n h ih =>
    rw [decimal_of_le h]
    intro b hb
    rcases List.mem_append.mp hb with hb | hb
    · exact ih b hb
    · rw [List.mem_singleton.mp hb]
      exact isdigit_digitChar (Nat.mod_lt _ (by omega))

theorem decimal_ne_nil (n : ℕ) : decimal n ≠ [] := by
  rcases Nat.lt_or_ge n 10 with h | h
  · simp [decimal_of_lt h]
  · simp [decimal_of_le h]

/-- The digits stand for the number. -/
theorem decimalValue_decimal (n : ℕ) : decimalValue (decimal n) = n := by
  induction n using decimal_induction with
  | one n h => rw [decimal_of_lt h]; simp [decimalValue, digitValue_digitChar h]
  | more n h ih =>
    rw [decimalValue] at ih
    rw [decimal_of_le h, decimalValue, List.foldl_append, ih, List.foldl_cons, List.foldl_nil,
      digitValue_digitChar (Nat.mod_lt _ (by omega))]
    omega

/-- The first digit is no zero, but for the number zero. -/
theorem head?_decimal {n : ℕ} (h : n ≠ 0) : (decimal n).head? ≠ some 0x30 := by
  revert h
  induction n using decimal_induction with
  | one n hn =>
    have : ∀ d < 10, d ≠ 0 → some (digitChar d) ≠ some 0x30 := by decide
    intro h
    rw [decimal_of_lt hn]
    exact this n hn h
  | more n hn ih =>
    intro _
    rw [decimal_of_le hn, List.head?_append_of_ne_nil _ (decimal_ne_nil _)]
    exact ih (by omega)

/-- A number below `10 ^ k` has at most `k` digits. -/
theorem length_decimal_le {k : ℕ} (hk : 0 < k) {n : ℕ} (h : n < 10 ^ k) :
    (decimal n).length ≤ k := by
  induction k generalizing n with
  | zero => omega
  | succ k ih =>
    rcases Nat.lt_or_ge n 10 with h10 | h10
    · rw [decimal_of_lt h10]; simp
    · rw [decimal_of_le h10, List.length_append, List.length_singleton]
      have hk : 0 < k := by
        rcases Nat.eq_zero_or_pos k with rfl | hk
        · omega
        · exact hk
      have : n / 10 < 10 ^ k := by rw [pow_succ] at h; omega
      exact Nat.succ_le_succ (ih hk this)

/-- `%d`. -/
def decimalInt (z : ℤ) : Bytes := if z < 0 then 0x2d :: decimal z.natAbs else decimal z.natAbs

theorem length_decimalInt_le {k : ℕ} (hk : 0 < k) {z : ℤ} (h : z.natAbs < 10 ^ k) :
    (decimalInt z).length ≤ k + 1 := by
  have := length_decimal_le hk h
  unfold decimalInt
  split_ifs
  · simpa using this
  · omega

/-- `%0wd`: zeros behind the sign fill the width `w`. -/
def padded (w : ℕ) (z : ℤ) : Bytes :=
  let digits := decimal z.natAbs
  if z < 0 then 0x2d :: (List.replicate (w - 1 - digits.length) 0x30 ++ digits)
  else List.replicate (w - digits.length) 0x30 ++ digits

theorem isdigit_of_mem_zeros_append (zeros n : ℕ) :
    ∀ b ∈ List.replicate zeros 0x30 ++ decimal n, isdigit b = true := by
  rw [List.forall_mem_append]
  refine ⟨fun b hb => ?_, isdigit_of_mem_decimal _⟩
  rw [List.eq_of_mem_replicate hb]
  decide

/-- Zeros in front do not change the number. -/
theorem decimalValue_zeros_append (zeros n : ℕ) :
    decimalValue (List.replicate zeros 0x30 ++ decimal n) = n := by
  induction zeros with
  | zero => exact decimalValue_decimal n
  | succ zeros ih => exact ih

/-- Only digits and a sign are printed. -/
theorem isdigit_of_mem_padded {w : ℕ} {z : ℤ} :
    ∀ b ∈ padded w z, isdigit b = true ∨ b = 0x2d := by
  unfold padded
  dsimp only
  split_ifs
  · rw [List.forall_mem_cons]
    exact ⟨.inr rfl, fun b hb => .inl (isdigit_of_mem_zeros_append _ _ b hb)⟩
  · exact fun b hb => .inl (isdigit_of_mem_zeros_append _ _ b hb)

/-! ### Hexadecimal digits -/

/-- The lower-case hexadecimal digit that stands for `d`. -/
def xdigitChar (d : ℕ) : UInt8 := if d < 10 then digitChar d else UInt8.ofNat (0x57 + d)

/-- `%04x` of a byte. -/
def hex4 (b : UInt8) : Bytes :=
  [0x30, 0x30, xdigitChar (b.toNat / 16), xdigitChar (b.toNat % 16)]

/-! ### Two decimals -/

/-- The whole number of hundredths nearest to `|q|`, the even one of two. -/
def hundredths (q : ℚ) : ℕ :=
  let a := 100 * q.num.natAbs
  let n := a / q.den
  let r := a % q.den
  if 2 * r < q.den ∨ (2 * r = q.den ∧ n % 2 = 0) then n else n + 1

/-- `q` rounded to two decimals. -/
def round2 (q : ℚ) : ℚ := if q < 0 then -(hundredths q / 100) else hundredths q / 100

/-- A number of hundredths, with a point. -/
def twoDecimals (h : ℕ) : Bytes :=
  decimal (h / 100) ++ [0x2e, digitChar (h % 100 / 10), digitChar (h % 10)]

/-- `%.2f`. -/
def fixed2 : Double → Bytes
  | .nan => ascii "nan"
  | .inf negative => if negative then ascii "-inf" else ascii "inf"
  | .negZero => 0x2d :: twoDecimals 0
  | .finite q => if q < 0 then 0x2d :: twoDecimals (hundredths q) else twoDecimals (hundredths q)

/-- The hundredths of a number below `m` are below `100 * m`, or just that. -/
theorem hundredths_le {q : ℚ} {m : ℕ} (h : |q| < m) : hundredths q ≤ 100 * m := by
  have hlt : q.num.natAbs < m * q.den := by
    have habs : |q| = (q.num.natAbs : ℚ) / q.den := by
      rw [Rat.abs_def, Rat.divInt_eq_div]
      rfl
    rw [habs, div_lt_iff₀ (by exact_mod_cast q.pos)] at h
    exact_mod_cast h
  have hdiv : 100 * q.num.natAbs / q.den < 100 * m := by
    rw [Nat.div_lt_iff_lt_mul q.pos]
    calc 100 * q.num.natAbs < 100 * (m * q.den) := by omega
      _ = 100 * m * q.den := by ring
  unfold hundredths
  dsimp only
  split_ifs <;> omega

/-- A number with at most `k` digits in front of its point is not printed long. -/
theorem length_fixed2_le {q : ℚ} {k : ℕ} (h : |q| < (10 ^ k : ℕ)) :
    (fixed2 (.finite q)).length ≤ k + 5 := by
  have hle : hundredths q / 100 < 10 ^ (k + 1) := by
    have := hundredths_le h
    have hpos : 0 < 10 ^ k := by positivity
    rw [pow_succ]
    omega
  have hdigits := length_decimal_le (Nat.succ_pos k) hle
  have htwo : (twoDecimals (hundredths q)).length ≤ k + 4 := by
    rw [twoDecimals, List.length_append]
    simpa using hdigits
  unfold fixed2
  dsimp only
  split_ifs
  · simpa using htwo
  · omega

end EdgeSentinel.CLib
