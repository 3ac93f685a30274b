import EdgeSentinel.CLib.Numerals

/-!
# Numbers with a point

What `%lf` makes of a number that is written with digits on both sides of a point, and the bytes
that are in no number.

* `Decimal s q rest` — the text `s` begins with such a number, which is `q`, and `rest` is behind
  it.
* `scanDouble_of_decimal` — `%lf` finds it, and exactly it, if a `double` can be that large.
* `mem_strtoul`, `mem_strtod` — a byte that is in no number (`StopsNumber`) is left behind.
-/

namespace EdgeSentinel.CLib

variable {s digits fraction rest : Bytes} {q : ℚ}

/-- A text that begins with a number with a point: blanks, digits, the point, more digits, and what
is behind them, which is empty or begins with a blank. -/
inductive Decimal : (s : Bytes) → (q : ℚ) → (rest : Bytes) → Prop where
  /-- The parts of the text. -/
  | intro {blanks whole fraction rest : Bytes}
    (blank : ∀ b ∈ blanks, isspace b = true)
    (ne_nil : whole ≠ []) (digit : ∀ b ∈ whole, isdigit b = true)
    (fraction_digit : ∀ b ∈ fraction, isdigit b = true)
    (stop : ∀ b, rest.head? = some b → isspace b = true) :
    Decimal (blanks ++ (whole ++ 0x2e :: (fraction ++ rest)))
      ((decimalValue (whole ++ fraction) : ℚ) / 10 ^ fraction.length) rest

/-- The parts, put together. -/
theorem Decimal.of_parts (blanks whole fraction rest : Bytes) (n : ℕ)
    (hblanks : blanks.all isspace = true) (hwhole : DigitString whole)
    (hfraction : fraction.all isdigit = true) (hrest : rest.head?.all isspace = true)
    (hs : s = blanks ++ (whole ++ 0x2e :: (fraction ++ rest)))
    (hvalue : decimalValue (whole ++ fraction) = n * 10 ^ fraction.length) :
    Decimal s n rest := by
  have hq : (n : ℚ) = (decimalValue (whole ++ fraction) : ℚ) / 10 ^ fraction.length := by
    rw [hvalue]
    push_cast
    exact (mul_div_cancel_right₀ _ (by positivity)).symm
  rw [hs, hq]
  refine .intro (List.all_eq_true.mp hblanks) hwhole.1 hwhole.2 (List.all_eq_true.mp hfraction) ?_
  intro b hb
  rw [hb] at hrest
  exact hrest

/-- A blank is no digit. -/
theorem not_isdigit_of_isspace {b : UInt8} (h : isspace b = true) : isdigit b = false := by
  by_contra hdigit
  rw [not_isspace_of_isdigit (by simpa using hdigit)] at h
  cases h

/-! ### The parts -/

/-- Neither a digit nor a blank is a letter. -/
theorem tolower_of_lt {b : UInt8} (h : b < 0x41) : tolower b = b := by
  unfold tolower
  rw [if_neg]
  simp only [Bool.and_eq_true, decide_eq_true_eq, not_and]
  intro hle
  exact absurd (UInt8.lt_of_lt_of_le h hle) (UInt8.lt_irrefl b)

theorem lt_of_isdigit {b : UInt8} (h : isdigit b = true) : b < 0x41 := by
  unfold isdigit at h
  simp only [Bool.and_eq_true, decide_eq_true_eq] at h
  exact UInt8.lt_of_le_of_lt h.2 (by decide)

theorem lt_of_isspace {b : UInt8} (h : isspace b = true) : b < 0x41 := by
  unfold isspace at h
  simp only [Bool.or_eq_true, Bool.and_eq_true, decide_eq_true_eq] at h
  obtain rfl | ⟨-, hle⟩ := h
  · decide
  · exact UInt8.lt_of_le_of_lt hle (by decide)

/-- A word that begins with a letter is not found where there is a digit. -/
theorem dropWord_of_isdigit {letter : UInt8} (hletter : isdigit letter = false) (word : Bytes)
    (h : ∃ b, s.head? = some b ∧ isdigit b = true) : dropWord (letter :: word) s = none := by
  obtain ⟨b, hb, hdigit⟩ := h
  obtain ⟨s, rfl⟩ : ∃ t, s = b :: t := ⟨s.tail, (List.cons_head?_tail hb).symm⟩
  unfold dropWord
  rw [List.length_cons, List.take_succ_cons, List.map_cons, tolower_of_lt (lt_of_isdigit hdigit),
    if_neg]
  intro heq
  rw [(List.cons.inj heq).1, hletter] at hdigit
  cases hdigit

/-- There is no `0x` where digits and a point are. -/
theorem dropWord_hexadecimal (hne : digits ≠ []) (hdigit : ∀ b ∈ digits, isdigit b = true)
    (t : Bytes) : dropWord (ascii "0x") (digits ++ 0x2e :: t) = none := by
  obtain ⟨b, digits, rfl⟩ := List.exists_cons_of_ne_nil hne
  -- the second byte is a digit, or the point
  have hsecond : ∃ c u, digits ++ 0x2e :: t = c :: u ∧ c < 0x41 := by
    cases digits with
    | nil => exact ⟨0x2e, t, rfl, by decide⟩
    | cons c digits => exact ⟨c, _, rfl, lt_of_isdigit (hdigit c (by simp))⟩
  obtain ⟨c, u, hcu, hc⟩ := hsecond
  have hword : ascii "0x" = [0x30, 0x78] := by decide
  rw [List.cons_append, hcu, hword]
  unfold dropWord
  rw [if_neg]
  intro heq
  have hcx := (List.cons.inj (List.cons.inj heq).2).1
  rw [tolower_of_lt hc] at hcx
  rw [hcx] at hc
  exact absurd hc (by decide)

/-- The digits of both sides of the point make one number. -/
theorem mantissaOf_decimal (hne : digits ≠ []) (hdigit : ∀ b ∈ digits, isdigit b = true)
    (hfraction : ∀ b ∈ fraction, isdigit b = true)
    (hstop : ∀ b, rest.head? = some b → isspace b = true) :
    mantissaOf 10 isdigit digitValue (digits ++ 0x2e :: (fraction ++ rest)) =
      some (decimalValue (digits ++ fraction), fraction.length, rest) := by
  obtain ⟨htake, hdrop⟩ := takeWhile_dropWhile_append (t := 0x2e :: (fraction ++ rest)) hdigit
    fun b hb => by rw [← Option.some.inj hb]; rfl
  obtain ⟨htake', hdrop'⟩ := takeWhile_dropWhile_append hfraction
    fun b hb => not_isdigit_of_isspace (hstop b hb)
  unfold mantissaOf
  simp only [htake, hdrop, htake', hdrop', hne, decide_false, Bool.false_and, Bool.false_eq_true,
    if_false]
  rfl

/-- No exponent begins with a blank. -/
theorem scanExponentOf_of_isspace (hstop : ∀ b, rest.head? = some b → isspace b = true) :
    scanExponentOf 0x65 rest = (0, rest) := by
  cases rest with
  | nil => rfl
  | cons b t =>
    have hlt := lt_of_isspace (hstop b rfl)
    have hne : tolower b ≠ 0x65 := by
      rw [tolower_of_lt hlt]
      rintro rfl
      exact absurd hlt (by decide)
    unfold scanExponentOf
    exact if_neg hne

/-! ### The number -/

theorem decimalOf_decimal (hne : digits ≠ []) (hdigit : ∀ b ∈ digits, isdigit b = true)
    (hfraction : ∀ b ∈ fraction, isdigit b = true)
    (hstop : ∀ b, rest.head? = some b → isspace b = true) :
    decimalOf scanExponentOf (digits ++ 0x2e :: (fraction ++ rest)) =
      some ((decimalValue (digits ++ fraction) : ℚ) / 10 ^ fraction.length, rest) := by
  unfold decimalOf
  rw [mantissaOf_decimal hne hdigit hfraction hstop]
  have hpower : (10 : ℚ) ^ ((0 : ℤ) - (fraction.length : ℤ)) = (10 ^ fraction.length)⁻¹ := by
    rw [zero_sub, zpow_neg, zpow_natCast]
  simp only [Option.bind_eq_bind, Option.bind_some, scanExponentOf_of_isspace hstop, hpower,
    div_eq_mul_inv]

/-- **`%lf`** finds the number, and exactly it, if a `double` can be that large. -/
theorem scanDouble_of_decimal (h : Decimal s q rest) (hq : q < doubleOverflow) :
    scanDouble s = some (.finite q, rest) := by
  obtain ⟨hblank, hne, hdigit, hfraction, hstop⟩ := h
  rename_i blanks digits fraction
  have hhead := head?_digits_append (0x2e :: (fraction ++ rest)) hne hdigit
  have hdrop : scanSpace (blanks ++ (digits ++ 0x2e :: (fraction ++ rest))) =
      digits ++ 0x2e :: (fraction ++ rest) := by
    refine (takeWhile_dropWhile_append hblank fun b hb => ?_).2
    obtain ⟨c, hc, hcdigit⟩ := hhead
    rw [← Option.some.inj (hc.symm.trans hb)]
    exact not_isspace_of_isdigit hcdigit
  have hwords : ascii "inf" = 0x69 :: ascii "nf" ∧ ascii "nan" = 0x6e :: ascii "an" := by decide
  obtain ⟨hinf, hnan⟩ := hwords
  unfold scanDouble
  rw [hdrop, signOf_of_isdigit hhead, hinf, hnan]
  dsimp only
  rw [dropWord_of_isdigit rfl _ hhead, dropWord_of_isdigit rfl _ hhead,
    dropWord_hexadecimal hne hdigit]
  simp only [Option.bind_eq_bind, decimalOf_decimal hne hdigit hfraction hstop, Option.bind_some]
  unfold doubleOf
  rw [if_neg (not_le.mpr hq)]
  rfl

/-! ### Bytes that no number has -/

variable {t : Bytes} {b : UInt8}

/-- A byte that is in no number, in no spelling: what reads a number stops in front of it. -/
structure StopsNumber (b : UInt8) : Prop where
  /-- It is no blank. -/
  space : isspace b = false
  /-- It is no digit. -/
  digit : isdigit b = false
  /-- It is no hexadecimal digit. -/
  xdigit : isxdigit b = false
  /-- It is no mark, and no letter but a digit. -/
  mark : tolower b ∉ ascii "0xep+-."

instance (b : UInt8) : Decidable (StopsNumber b) :=
  decidable_of_iff (isspace b = false ∧ isdigit b = false ∧ isxdigit b = false ∧
    tolower b ∉ ascii "0xep+-.")
    ⟨fun ⟨h₁, h₂, h₃, h₄⟩ => ⟨h₁, h₂, h₃, h₄⟩, fun ⟨h₁, h₂, h₃, h₄⟩ => ⟨h₁, h₂, h₃, h₄⟩⟩

theorem mem_signOf (hb : StopsNumber b) (h : b ∈ s) : b ∈ (signOf s).2 := by
  obtain ⟨sign, hsign, hs⟩ := exists_sign s
  rw [hs] at h
  generalize (signOf s).1 = negative at hsign
  refine (List.mem_append.mp h).resolve_left fun hmem => ?_
  have hmark := hb.mark
  cases hsign with
  | none => cases hmem
  | plus =>
    rw [List.mem_singleton.mp hmem] at hmark
    exact hmark (by decide)
  | minus =>
    rw [List.mem_singleton.mp hmem] at hmark
    exact hmark (by decide)

theorem mem_strtoul (max : ℕ) (hb : StopsNumber b) (h : b ∈ s) : b ∈ (strtoul max s).2.1 := by
  have hmem := mem_dropWhile hb.digit (mem_signOf hb (mem_dropWhile hb.space h))
  unfold strtoul
  dsimp only
  split_ifs
  · exact h
  all_goals exact hmem

theorem mem_dropWord {word : Bytes} (hword : tolower b ∉ word) (h : b ∈ s)
    (hdrop : dropWord word s = some t) : b ∈ t := by
  unfold dropWord at hdrop
  split_ifs at hdrop with htake
  obtain rfl := Option.some.inj hdrop
  rw [← List.take_append_drop word.length s] at h
  refine (List.mem_append.mp h).resolve_left fun hmem => hword ?_
  rw [← htake]
  exact List.mem_map_of_mem hmem

theorem mem_exponentOf {e : UInt8} (hb : StopsNumber b) (he : tolower b ≠ e) (h : b ∈ s) :
    b ∈ (exponentOf e s).2 := by
  unfold exponentOf
  split
  · rename_i c t
    dsimp only
    split_ifs with hcut
    all_goals try exact h
    all_goals
      have hc : b ≠ c := fun hbc => by simp [← hbc, he] at hcut
      exact mem_dropWhile hb.digit (mem_signOf hb ((List.mem_cons.mp h).resolve_left hc))
  · cases h

theorem mem_mantissaOf {base v places : ℕ} {isDigit : UInt8 → Bool} {valueOf : UInt8 → ℕ}
    (hb : StopsNumber b) (hdigit : isDigit b = false) (h : b ∈ s)
    (hsome : mantissaOf base isDigit valueOf s = some (v, places, rest)) : b ∈ rest := by
  have hmem := mem_dropWhile hdigit h
  have hpoint : b ≠ 0x2e := fun he => hb.mark (by rw [he]; decide)
  unfold mantissaOf at hsome
  dsimp only at hsome
  generalize s.takeWhile isDigit = whole at hsome
  generalize s.dropWhile isDigit = u at hmem hsome
  split at hsome
  · rename_i t
    have htail := mem_dropWhile hdigit ((List.mem_cons.mp hmem).resolve_left hpoint)
    split_ifs at hsome
    all_goals
      simp only [Option.some.injEq, Prod.mk.injEq] at hsome
      rw [← hsome.2.2]
      assumption
  · split_ifs at hsome
    simp only [Option.some.injEq, Prod.mk.injEq] at hsome
    rwa [← hsome.2.2]

theorem mem_unsignedNumberOf {q : ℚ} (hb : StopsNumber b) (h : b ∈ s)
    (hsome : unsignedNumberOf s = some (q, rest)) : b ∈ rest := by
  have hhex : tolower b ∉ ascii "0x" := fun hm =>
    hb.mark (List.mem_append_left (ascii "ep+-.") hm)
  have hpower : tolower b ≠ 0x70 := fun he => hb.mark (by rw [he]; decide)
  have hexponent : tolower b ≠ 0x65 := fun he => hb.mark (by rw [he]; decide)
  unfold unsignedNumberOf at hsome
  rw [Option.orElse_eq_orElse, Option.orElse_eq_or] at hsome
  rcases Option.or_eq_some_iff.mp hsome with hsome | ⟨-, hsome⟩
  · obtain ⟨t, ht, hsome⟩ := Option.bind_eq_some_iff.mp hsome
    obtain ⟨⟨v, places, u⟩, hu, hsome⟩ := Option.bind_eq_some_iff.mp hsome
    obtain ⟨-, rfl⟩ := Prod.mk.inj (Option.some.inj hsome)
    exact mem_exponentOf hb hpower (mem_mantissaOf hb hb.xdigit (mem_dropWord hhex h ht) hu)
  · obtain ⟨⟨v, places, u⟩, hu, hsome⟩ := Option.bind_eq_some_iff.mp hsome
    obtain ⟨-, rfl⟩ := Prod.mk.inj (Option.some.inj hsome)
    exact mem_exponentOf hb hexponent (mem_mantissaOf hb hb.digit h hu)

/-- **`strtod`** leaves such a byte behind. -/
theorem mem_strtod (hb : StopsNumber b) (h : b ∈ s) (hfinite : (strtod s).1.IsFinite) :
    b ∈ (strtod s).2.1 := by
  have hmem := mem_signOf hb (mem_dropWhile hb.space h)
  unfold strtod at hfinite ⊢
  dsimp only at hfinite ⊢
  generalize (signOf (s.dropWhile isspace)).1 = negative at hfinite ⊢
  generalize (signOf (s.dropWhile isspace)).2 = t at hmem hfinite ⊢
  split at hfinite
  · cases hfinite
  · split at hfinite
    · cases hfinite
    · split at hfinite
      · rename_i hsome
        exact mem_unsignedNumberOf hb hmem hsome
      · exact h

end EdgeSentinel.CLib
