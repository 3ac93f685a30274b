import EdgeSentinel.CLib.Numbers

/-!
# Numbers in a text

What `strtoul`, its siblings and the conversions of `scanf` find at the start of a text: blanks,
a sign, and decimal digits, up to the first byte that is none.

## The model

* `Numeral s negative n rest` — the text `s` begins with a number, which has the digits of `n`,
  and `rest` is behind it.
* `numeralOf` — the same, computed.
* `Numerals k s values rest`, `numeralsOf` — several numbers in a row.

## What is proved

* `numeralOf_eq_some_iff` — the two are the same.
* `strtoul_eq`, `strtol_eq` — what the readers make of the number that they find.
* `scanUnsigned_eq`, `scanInt_eq` — the conversions of `scanf` find one whenever there is one.
* `scanUnsigneds_of_numerals`, `scanUnsigneds_eq_none` — several conversions in a row.
* `numeralOf_digitString` — a text of nothing but digits is a number.
-/

namespace EdgeSentinel.CLib

variable {s digits rest : Bytes} {negative : Bool} {n max : ℕ}

/-! ### Numerals -/

/-- A sign, or none. -/
inductive IsSign : Bytes → Bool → Prop where
  /-- No sign. -/
  | none : IsSign [] false
  /-- `+`. -/
  | plus : IsSign [0x2b] false
  /-- `-`. -/
  | minus : IsSign [0x2d] true

/-- A text that begins with a number: blanks, a sign, all the digits of the number, and what is
behind them. -/
inductive Numeral : (s : Bytes) → (negative : Bool) → (n : ℕ) → (rest : Bytes) → Prop where
  /-- The parts of the text. -/
  | intro {blanks sign digits rest : Bytes} {negative : Bool}
    (blank : ∀ b ∈ blanks, isspace b = true) (sign_ok : IsSign sign negative)
    (ne_nil : digits ≠ []) (digit : ∀ b ∈ digits, isdigit b = true)
    (stop : ∀ b, rest.head? = some b → isdigit b = false) :
    Numeral (blanks ++ (sign ++ (digits ++ rest))) negative (decimalValue digits) rest

/-- The number at the start of a text: its sign, its digits, and what is behind it. -/
def numeralOf (s : Bytes) : Option (Bool × ℕ × Bytes) :=
  let (negative, t) := signOf (s.dropWhile isspace)
  if t.takeWhile isdigit = [] then none
  else some (negative, decimalValue (t.takeWhile isdigit), t.dropWhile isdigit)

/-- A digit is no blank and no sign. -/
theorem not_isspace_of_isdigit {b : UInt8} (h : isdigit b = true) : isspace b = false := by
  unfold isdigit at h
  unfold isspace
  simp only [Bool.and_eq_true, decide_eq_true_eq] at h
  grind

theorem ne_sign_of_isdigit {b : UInt8} (h : isdigit b = true) : b ≠ 0x2d ∧ b ≠ 0x2b := by
  constructor
  · rintro rfl
    cases h
  · rintro rfl
    cases h

/-- A text that begins with a digit begins with no sign. -/
theorem signOf_of_isdigit (h : ∃ b, s.head? = some b ∧ isdigit b = true) :
    signOf s = (false, s) := by
  obtain ⟨b, hb, hdigit⟩ := h
  obtain ⟨hminus, hplus⟩ := ne_sign_of_isdigit hdigit
  unfold signOf
  split
  · exact absurd (Option.some.inj hb).symm hminus
  · exact absurd (Option.some.inj hb).symm hplus
  · rfl

theorem head?_digits_append (rest : Bytes) (hne : digits ≠ [])
    (h : ∀ b ∈ digits, isdigit b = true) :
    ∃ b, (digits ++ rest).head? = some b ∧ isdigit b = true := by
  obtain ⟨b, digits, rfl⟩ := List.exists_cons_of_ne_nil hne
  exact ⟨b, rfl, h b List.mem_cons_self⟩

/-- A sign in front of digits is the sign. -/
theorem signOf_sign_append {sign : Bytes} (hsign : IsSign sign negative) (hne : digits ≠ [])
    (h : ∀ b ∈ digits, isdigit b = true) :
    signOf (sign ++ (digits ++ rest)) = (negative, digits ++ rest) := by
  cases hsign with
  | none => exact signOf_of_isdigit (s := digits ++ rest) (head?_digits_append rest hne h)
  | plus => rfl
  | minus => rfl

/-- Neither a sign nor a digit is a blank. -/
theorem head?_sign_append (rest : Bytes) {sign : Bytes} (hsign : IsSign sign negative)
    (hne : digits ≠ [])
    (h : ∀ b ∈ digits, isdigit b = true) :
    ∀ b, (sign ++ (digits ++ rest)).head? = some b → isspace b = false := by
  intro b hb
  cases hsign with
  | none =>
    obtain ⟨c, hc, hdigit⟩ := head?_digits_append rest hne h
    obtain rfl := Option.some.inj (hc.symm.trans hb)
    exact not_isspace_of_isdigit hdigit
  | plus =>
    obtain rfl := Option.some.inj hb
    rfl
  | minus =>
    obtain rfl := Option.some.inj hb
    rfl

theorem numeralOf_of_numeral (h : Numeral s negative n rest) :
    numeralOf s = some (negative, n, rest) := by
  obtain ⟨hblank, hsign, hne, hdigit, hstop⟩ := h
  obtain ⟨-, hdrop⟩ := takeWhile_dropWhile_append hblank (head?_sign_append rest hsign hne hdigit)
  obtain ⟨htake, hrest⟩ := takeWhile_dropWhile_append hdigit hstop
  unfold numeralOf
  rw [hdrop, signOf_sign_append hsign hne hdigit]
  dsimp only
  rw [htake, hrest, if_neg hne]

/-- What `signOf` leaves is behind a sign. -/
theorem exists_sign (s : Bytes) : ∃ sign, IsSign sign (signOf s).1 ∧ s = sign ++ (signOf s).2 := by
  unfold signOf
  split
  · exact ⟨_, .minus, rfl⟩
  · exact ⟨_, .plus, rfl⟩
  · exact ⟨_, .none, rfl⟩

theorem head?_dropWhile_isdigit (s : Bytes) :
    ∀ b, (s.dropWhile isdigit).head? = some b → isdigit b = false := by
  intro b hb
  have hnot := List.head?_dropWhile_not isdigit s
  rwa [hb] at hnot

/-- **What is computed** is there, and the other way round. -/
theorem numeralOf_eq_some_iff :
    numeralOf s = some (negative, n, rest) ↔ Numeral s negative n rest := by
  refine ⟨fun h => ?_, numeralOf_of_numeral⟩
  unfold numeralOf at h
  obtain ⟨sign, hsign, hs⟩ := exists_sign (s.dropWhile isspace)
  rcases hcut : signOf (s.dropWhile isspace) with ⟨negative', t⟩
  rw [hcut] at h hsign hs
  dsimp only at h hsign hs
  split_ifs at h with hne
  obtain ⟨hnegative, hvalue⟩ := Prod.mk.inj (Option.some.inj h)
  obtain ⟨rfl, rfl⟩ := Prod.mk.inj hvalue
  subst hnegative
  have hparts : s =
      s.takeWhile isspace ++ (sign ++ (t.takeWhile isdigit ++ t.dropWhile isdigit)) := by
    rw [List.takeWhile_append_dropWhile, ← hs, List.takeWhile_append_dropWhile]
  rw [hparts]
  exact .intro (fun b hb => List.mem_takeWhile_imp hb) hsign hne
    (fun b hb => List.mem_takeWhile_imp hb) (head?_dropWhile_isdigit t)

theorem numeralOf_eq_none_iff :
    numeralOf s = none ↔ ¬ ∃ negative n rest, Numeral s negative n rest := by
  constructor
  · rintro h ⟨negative, n, rest, hnumeral⟩
    rw [numeralOf_of_numeral hnumeral] at h
    cases h
  · intro h
    rcases hs : numeralOf s with _ | ⟨negative, n, rest⟩
    · rfl
    · exact absurd ⟨_, _, _, numeralOf_eq_some_iff.mp hs⟩ h

/-- A number has a digit at least. -/
theorem Numeral.length_lt (h : Numeral s negative n rest) : rest.length < s.length := by
  obtain ⟨-, -, hne, -, -⟩ := h
  have hpos := List.length_pos_iff.mpr hne
  simp only [List.length_append]
  omega

theorem Numeral.ne (h : Numeral s negative n rest) : rest ≠ s := fun he => by
  have hlt := h.length_lt
  rw [he] at hlt
  exact lt_irrefl _ hlt

/-- A blank behind a text is behind its number. -/
theorem Numeral.append_blank {b : UInt8} (h : Numeral s negative n rest) (hb : isspace b = true) :
    Numeral (s ++ [b]) negative n (rest ++ [b]) := by
  obtain ⟨hblank, hsign, hne, hdigit, hstop⟩ := h
  simp only [List.append_assoc]
  refine .intro hblank hsign hne hdigit fun c hc => ?_
  cases rest with
  | nil =>
    rw [← Option.some.inj hc]
    by_contra hdigit
    rw [not_isspace_of_isdigit (by simpa using hdigit)] at hb
    cases hb
  | cons d rest => exact hstop c hc

/-- It is no part of the number. -/
theorem Numeral.of_append_blank {b : UInt8} {t : Bytes} (h : Numeral (s ++ [b]) negative n t)
    (hb : isspace b = true) :
    ∃ rest, t = rest ++ [b] ∧ Numeral s negative n rest := by
  generalize hs : s ++ [b] = x at h
  obtain ⟨hblank, hsign, hne, hdigit, hstop⟩ := h
  rename_i blanks sign digits
  rcases List.eq_nil_or_concat t with rfl | ⟨rest, c, rfl⟩
  · -- the last byte would be a digit
    obtain ⟨digits, d, rfl⟩ := (List.eq_nil_or_concat digits).resolve_left hne
    have hlast : s ++ [b] = (blanks ++ (sign ++ digits)) ++ [d] := by simp [hs]
    obtain ⟨-, hbd⟩ := List.append_inj' hlast rfl
    have hd := not_isspace_of_isdigit (hdigit d (by simp))
    rw [← List.singleton_inj.mp hbd, hb] at hd
    cases hd
  · have hlast : s ++ [b] = (blanks ++ (sign ++ (digits ++ rest))) ++ [c] := by simp [hs]
    obtain ⟨rfl, hbc⟩ := List.append_inj' hlast rfl
    refine ⟨rest, by rw [hbc, List.concat_eq_append],
      .intro hblank hsign hne hdigit fun d hd => hstop d ?_⟩
    rw [List.concat_eq_append, List.head?_append, hd, Option.some_or]

/-! ### The readers -/

/-- The value that `strtoul` gives to a number, for a type with the largest value `max`. -/
def unsignedValue (max : ℕ) (negative : Bool) (n : ℕ) : ℕ :=
  if max < n then max else if negative then (max + 1 - n) % (max + 1) else n

/-- The value that `strtol` gives to a number. -/
def signedValue (max : ℕ) (negative : Bool) (n : ℕ) : ℤ :=
  if negative then
    if max + 1 < n then -(max + 1 : ℤ) else -(n : ℤ)
  else if max < n then (max : ℤ)
  else (n : ℤ)

/-- A number that the type can hold stays as it is. -/
theorem unsignedValue_of_le (h : n ≤ max) : unsignedValue max false n = n := by
  rw [unsignedValue, if_neg (not_lt.mpr h), if_neg Bool.false_ne_true]

theorem unsignedValue_le (max : ℕ) (negative : Bool) (n : ℕ) :
    unsignedValue max negative n ≤ max := by
  unfold unsignedValue
  split_ifs with hmax
  · exact le_refl _
  · exact Nat.le_of_lt_succ (Nat.mod_lt _ (Nat.succ_pos _))
  · exact Nat.le_of_not_lt hmax

/-- What `strtoul` makes of the number at the start of a text. -/
theorem strtoul_eq (max : ℕ) (s : Bytes) : strtoul max s =
    match numeralOf s with
    | none => (0, s, false)
    | some (negative, n, rest) => (unsignedValue max negative n, rest, decide (max < n)) := by
  unfold strtoul numeralOf unsignedValue
  dsimp only
  by_cases hdigits : (signOf (s.dropWhile isspace)).2.takeWhile isdigit = []
  · rw [if_pos hdigits, if_pos hdigits]
  · rw [if_neg hdigits, if_neg hdigits]
    dsimp only
    split_ifs with hmax hsign <;> simp [hmax]

/-- What is read as an unsigned number is one of the type. -/
theorem strtoul_le (max : ℕ) (s : Bytes) : (strtoul max s).1 ≤ max := by
  rw [strtoul_eq]
  cases numeralOf s with
  | none => exact Nat.zero_le _
  | some numeral => exact unsignedValue_le _ _ _

/-- What `strtol` makes of it. -/
theorem strtol_eq (max : ℕ) (s : Bytes) : strtol max s =
    match numeralOf s with
    | none => (0, s, false)
    | some (negative, n, rest) =>
      (signedValue max negative n, rest, decide (if negative then max + 1 < n else max < n)) := by
  unfold strtol numeralOf signedValue
  dsimp only
  by_cases hdigits : (signOf (s.dropWhile isspace)).2.takeWhile isdigit = []
  · rw [if_pos hdigits, if_pos hdigits]
  · rw [if_neg hdigits, if_neg hdigits]
    dsimp only
    split_ifs with hsign hmax hmax <;> simp [hmax]

/-- `%lu` finds a number whenever there is one. -/
theorem scanUnsigned_eq (s : Bytes) : scanUnsigned s =
    (numeralOf s).map fun (negative, n, rest) =>
      (UInt64.ofNat (unsignedValue ulongMax negative n), rest) := by
  unfold scanUnsigned
  rw [strtoul_eq]
  rcases hs : numeralOf s with _ | ⟨negative, n, rest⟩
  · exact if_pos rfl
  · exact if_neg (numeralOf_eq_some_iff.mp hs).ne

/-- It stores an integer with at most 64 bits as it is, modulo 2⁶⁴. -/
theorem ofNat_unsignedValue_eq_ofInt (h : n < 2 ^ 64) :
    UInt64.ofNat (unsignedValue ulongMax negative n) =
      UInt64.ofInt (if negative then -(n : ℤ) else n) := by
  have hsize : ulongMax + 1 = 2 ^ 64 := rfl
  unfold unsignedValue
  rw [if_neg (by omega), UInt64.ofInt, hsize]
  congr 1
  cases negative with
  | false =>
    rw [if_neg Bool.false_ne_true, if_neg Bool.false_ne_true]
    omega
  | true =>
    rw [if_pos rfl, if_pos rfl]
    omega

/-- So does `%d`. -/
theorem scanInt_eq (s : Bytes) : scanInt s =
    (numeralOf s).map fun (negative, n, rest) =>
      (Int32.ofInt (signedValue longMax negative n), rest) := by
  unfold scanInt
  rw [strtol_eq]
  rcases hs : numeralOf s with _ | ⟨negative, n, rest⟩
  · exact if_pos rfl
  · exact if_neg (numeralOf_eq_some_iff.mp hs).ne

/-! ### Several numbers in a row -/

/-- A text begins with `k` numbers, which are the integers `values`, and `rest` is behind them. -/
inductive Numerals : (k : ℕ) → (s : Bytes) → (values : List ℤ) → (rest : Bytes) → Prop where
  /-- No number. -/
  | zero (s : Bytes) : Numerals 0 s [] s
  /-- One number more. -/
  | succ {k n : ℕ} {s t rest : Bytes} {negative : Bool} {values : List ℤ}
    (number : Numeral s negative n t) (more : Numerals k t values rest) :
    Numerals (k + 1) s ((if negative then -(n : ℤ) else n) :: values) rest

/-- The numbers at the start of a text. -/
def numeralsOf : ℕ → Bytes → Option (List ℤ × Bytes)
  | 0, s => some ([], s)
  | k + 1, s => do
    let (negative, n, t) ← numeralOf s
    let (values, rest) ← numeralsOf k t
    some ((if negative then -(n : ℤ) else n) :: values, rest)

variable {k : ℕ} {values : List ℤ}

theorem numeralsOf_eq_some_iff :
    numeralsOf k s = some (values, rest) ↔ Numerals k s values rest := by
  induction k generalizing s values with
  | zero =>
    constructor
    · rintro ⟨⟩
      exact .zero _
    · rintro ⟨⟩
      rfl
  | succ k ih =>
    constructor
    · intro h
      obtain ⟨⟨negative, n, t⟩, hnumber, h⟩ := Option.bind_eq_some_iff.mp h
      obtain ⟨⟨values', rest'⟩, hmore, h⟩ := Option.bind_eq_some_iff.mp h
      obtain ⟨rfl, rfl⟩ := Prod.mk.inj (Option.some.inj h)
      exact .succ (numeralOf_eq_some_iff.mp hnumber) (ih.mp hmore)
    · rintro (_ | ⟨hnumber, hmore⟩)
      rw [numeralsOf, numeralOf_eq_some_iff.mpr hnumber]
      dsimp only [Option.bind_eq_bind, Option.bind_some]
      rw [ih.mpr hmore]
      rfl

theorem Numerals.append_blank {b : UInt8} (h : Numerals k s values rest) (hb : isspace b = true) :
    Numerals k (s ++ [b]) values (rest ++ [b]) := by
  induction h with
  | zero s => exact .zero _
  | succ number more ih => exact .succ (number.append_blank hb) ih

theorem Numerals.of_append_blank {b : UInt8} {t : Bytes} (h : Numerals k (s ++ [b]) values t)
    (hb : isspace b = true) :
    ∃ rest, t = rest ++ [b] ∧ Numerals k s values rest := by
  generalize hs : s ++ [b] = x at h
  induction h generalizing s with
  | zero x => exact ⟨s, hs.symm, .zero s⟩
  | succ number more ih =>
    subst hs
    obtain ⟨rest, rfl, hnumber⟩ := number.of_append_blank hb
    obtain ⟨rest', rfl, hmore⟩ := ih rfl
    exact ⟨rest', rfl, .succ hnumber hmore⟩

/-- The conversions find the numbers, -/
theorem scanUnsigneds_of_numerals (h : Numerals k s values rest)
    (hrange : ∀ z ∈ values, z.natAbs < 2 ^ 64) :
    scanUnsigneds k s = some (values.map UInt64.ofInt, rest) := by
  induction h with
  | zero s => rfl
  | @succ k n s t rest negative values number more ih =>
    rw [List.forall_mem_cons] at hrange
    have hn : n < 2 ^ 64 := by
      have habs := hrange.1
      split_ifs at habs <;> omega
    rw [scanUnsigneds, scanUnsigned_eq, numeralOf_eq_some_iff.mpr number]
    simp only [Option.map_some, Option.bind_eq_bind, Option.bind_some, ih hrange.2,
      ofNat_unsignedValue_eq_ofInt hn, List.map_cons]

/-- and nothing else. -/
theorem scanUnsigneds_eq_none (h : numeralsOf k s = none) : scanUnsigneds k s = none := by
  induction k generalizing s with
  | zero => cases h
  | succ k ih =>
    rw [numeralsOf] at h
    rw [scanUnsigneds, scanUnsigned_eq]
    cases hs : numeralOf s with
    | none => rfl
    | some number =>
      obtain ⟨negative, n, t⟩ := number
      rw [hs] at h
      dsimp only [Option.bind_eq_bind, Option.bind_some, Option.map_some] at h ⊢
      cases ht : numeralsOf k t with
      | none => rw [ih ht, Option.bind_none]
      | some more =>
        rw [ht] at h
        cases h

/-! ### Nothing but digits -/

/-- A text of one or more digits. -/
def DigitString (s : Bytes) : Prop := s ≠ [] ∧ ∀ b ∈ s, isdigit b = true

instance (s : Bytes) : Decidable (DigitString s) :=
  decidable_of_iff (s ≠ [] ∧ s.all isdigit = true) (and_congr_right fun _ => List.all_eq_true)

/-- The number at the start of a text that begins with a digit has all of the leading digits. -/
theorem numeralOf_of_isdigit (h : ∃ b, s.head? = some b ∧ isdigit b = true) : numeralOf s =
    some (false, decimalValue (s.takeWhile isdigit), s.dropWhile isdigit) := by
  obtain ⟨b, hb, hdigit⟩ := h
  obtain ⟨t, rfl⟩ : ∃ t, s = b :: t := by
    cases s with
    | nil => cases hb
    | cons c t => exact ⟨t, by rw [Option.some.inj hb]⟩
  have hblank := not_isspace_of_isdigit hdigit
  unfold numeralOf
  rw [List.dropWhile_cons_of_neg (by simp [hblank]), signOf_of_isdigit ⟨b, rfl, hdigit⟩]
  dsimp only
  rw [if_neg]
  rw [List.takeWhile_cons_of_pos hdigit]
  exact List.cons_ne_nil _ _

/-- Digits are a number, and nothing is behind it. -/
theorem numeralOf_digitString (h : DigitString s) :
    numeralOf s = some (false, decimalValue s, []) := by
  obtain ⟨b, hb, hdigit⟩ := head?_digits_append [] h.1 h.2
  rw [List.append_nil] at hb
  rw [numeralOf_of_isdigit ⟨b, hb, hdigit⟩, List.takeWhile_eq_self_iff.mpr h.2,
    List.dropWhile_eq_nil_iff.mpr h.2]

/-- `strtoul` reads digits as the number they stand for, up to the largest one of the type. -/
theorem strtoul_digitString (h : DigitString s) (hle : decimalValue s ≤ max) :
    strtoul max s = (decimalValue s, [], false) := by
  rw [strtoul_eq, numeralOf_digitString h]
  dsimp only
  rw [unsignedValue_of_le hle, decide_eq_false (not_lt.mpr hle)]

/-- All of a text are digits if none is behind the leading ones. -/
theorem digitString_iff : DigitString s ↔
    (∃ b, s.head? = some b ∧ isdigit b = true) ∧ s.dropWhile isdigit = [] := by
  rw [List.dropWhile_eq_nil_iff]
  constructor
  · intro h
    have hhead := head?_digits_append [] h.1 h.2
    rw [List.append_nil] at hhead
    exact ⟨hhead, h.2⟩
  · rintro ⟨⟨b, hb, -⟩, hall⟩
    refine ⟨?_, hall⟩
    rintro rfl
    cases hb

/-- A text that begins with a digit is read to its end, and is not out of range, exactly if it is
made of digits that stand for a number of the type. -/
theorem strtoul_whole_iff (hdigit : ∃ b, s.head? = some b ∧ isdigit b = true) :
    (strtoul max s).2.1 = [] ∧ (strtoul max s).2.2 = false ↔
      DigitString s ∧ decimalValue s ≤ max := by
  constructor
  · rintro ⟨hrest, hrange⟩
    rw [strtoul_eq, numeralOf_of_isdigit hdigit] at hrest hrange
    have hall : DigitString s := digitString_iff.mpr ⟨hdigit, hrest⟩
    rw [List.takeWhile_eq_self_iff.mpr hall.2] at hrange
    exact ⟨hall, not_lt.mp (of_decide_eq_false hrange)⟩
  · rintro ⟨hall, hle⟩
    rw [strtoul_digitString hall hle]
    exact ⟨rfl, rfl⟩

end EdgeSentinel.CLib
