import EdgeSentinel.CLib.Strings

/-!
# Splitting at a separator

A text is split at every separator (`List.splitOn`), which gives an empty piece wherever a
separator stands at an end of the text or beside another one. `strtok` leaves the empty pieces
out.

## What is proved

* `sep_not_mem_of_mem_splitOn` — no piece has a separator.
* `nil_mem_splitOn_iff` — where there is an empty piece.
* `strtok_eq_splitOn` — without empty pieces, `strtok` finds all of the pieces.
* `strtok_append_cons` — it finds the tokens on both sides of a separator.
* `strchr_eq_some_iff`, `strrchr_eq_some_iff` — where `strchr` and `strrchr` cut.
* `trim_append_left`, `trim_append_right` — blanks at the ends are trimmed with the rest.
* `weight_trim`, `weight_splitOn` — how many bytes that are no blanks there are (`weight`) in a
  text that is trimmed, and in the pieces of one that is split.
-/

namespace EdgeSentinel.CLib

variable {sep b : UInt8} {s t : Bytes}

/-- Only a byte that is no separator makes the first piece longer. -/
theorem splitOn_cons_of_ne (h : b ≠ sep) (t : Bytes) :
    ∃ p ps, t.splitOn sep = p :: ps ∧ (b :: t).splitOn sep = (b :: p) :: ps := by
  obtain ⟨p, ps, hsplit⟩ := List.exists_cons_of_ne_nil (List.splitOn_ne_nil sep t)
  refine ⟨p, ps, hsplit, ?_⟩
  rw [List.splitOn_cons_eq_if_modifyHead, if_neg (by simpa using h), hsplit, List.modifyHead_cons]

/-- A separator ends a piece that is empty so far. -/
theorem splitOn_cons_self (sep : UInt8) (t : Bytes) :
    (sep :: t).splitOn sep = [] :: t.splitOn sep := by
  rw [List.splitOn_cons_eq_if_modifyHead, if_pos (by simp)]

/-- **No piece has a separator.** -/
theorem sep_not_mem_of_mem_splitOn {piece : Bytes} (h : piece ∈ s.splitOn sep) :
    sep ∉ piece := by
  induction s generalizing piece with
  | nil =>
    rw [List.splitOn_nil, List.mem_singleton] at h
    rw [h]
    exact List.not_mem_nil
  | cons b t ih =>
    by_cases hb : b = sep
    · rw [hb, splitOn_cons_self] at h
      rcases List.mem_cons.mp h with rfl | h
      · exact List.not_mem_nil
      · exact ih h
    · obtain ⟨p, ps, hsplit, hcons⟩ := splitOn_cons_of_ne hb t
      rw [hsplit] at ih
      rw [hcons] at h
      rcases List.mem_cons.mp h with rfl | h
      · rw [List.mem_cons, not_or]
        exact ⟨Ne.symm hb, ih List.mem_cons_self⟩
      · exact ih (List.mem_cons_of_mem _ h)

/-- The bytes of a piece are bytes of the text. -/
theorem mem_of_mem_splitOn {piece : Bytes} (h : piece ∈ s.splitOn sep) (hb : b ∈ piece) :
    b ∈ s := by
  obtain ⟨i, hi⟩ := List.mem_iff_getElem?.mp h
  have hs : [sep].intercalate (s.splitOn sep) = s := List.intercalate_splitOn sep
  rw [← hs]
  refine List.mem_flatten.mpr ⟨piece, ?_, hb⟩
  exact List.mem_of_getElem? (List.getElem?_intersperse_two_mul.trans hi)

/-- The first piece is empty if the text is, or begins with a separator. -/
theorem head?_splitOn_eq_nil_iff (sep : UInt8) (s : Bytes) :
    (s.splitOn sep).head? = some [] ↔ s = [] ∨ s.head? = some sep := by
  cases s with
  | nil => simp
  | cons b t =>
    by_cases hb : b = sep
    · simp [hb, splitOn_cons_self]
    · obtain ⟨p, ps, -, hcons⟩ := splitOn_cons_of_ne hb t
      simp [hcons, hb]

/-- A later piece is empty if a separator stands at the end of the text or beside another one. -/
theorem nil_mem_tail_splitOn_iff (sep : UInt8) (s : Bytes) :
    [] ∈ (s.splitOn sep).tail ↔ s.getLast? = some sep ∨ [sep, sep] <:+: s := by
  induction s with
  | nil => simp
  | cons b t ih =>
    rw [List.infix_cons_iff]
    by_cases hb : b = sep
    · subst hb
      have hpieces : [] ∈ t.splitOn b ↔
          (t.splitOn b).head? = some [] ∨ [] ∈ (t.splitOn b).tail := by
        obtain ⟨p, ps, hsplit⟩ := List.exists_cons_of_ne_nil (List.splitOn_ne_nil b t)
        rw [hsplit, List.mem_cons, List.head?_cons, List.tail_cons, Option.some_inj, eq_comm]
      rw [splitOn_cons_self, List.tail_cons, hpieces, ih, head?_splitOn_eq_nil_iff]
      cases t with
      | nil => simp
      | cons c t =>
        rw [List.getLast?_cons_cons, List.cons_prefix_cons, List.cons_prefix_cons]
        simp [eq_comm, or_left_comm]
    · obtain ⟨p, ps, hsplit, hcons⟩ := splitOn_cons_of_ne hb t
      rw [hsplit, List.tail_cons] at ih
      rw [hcons, List.tail_cons, ih, List.cons_prefix_cons]
      cases t with
      | nil => simp [hb]
      | cons c t =>
        rw [List.getLast?_cons_cons]
        simp [Ne.symm hb]

/-- **A piece is empty** if the text is, or where a separator stands at one of its ends or
beside another one. -/
theorem nil_mem_splitOn_iff : [] ∈ s.splitOn sep ↔
    s = [] ∨ s.head? = some sep ∨ s.getLast? = some sep ∨ [sep, sep] <:+: s := by
  obtain ⟨p, ps, hsplit⟩ := List.exists_cons_of_ne_nil (List.splitOn_ne_nil sep s)
  have hhead := head?_splitOn_eq_nil_iff sep s
  have htail := nil_mem_tail_splitOn_iff sep s
  rw [hsplit, List.head?_cons, Option.some_inj] at hhead
  rw [hsplit, List.tail_cons] at htail
  rw [hsplit, List.mem_cons, eq_comm, hhead, htail, or_assoc]

/-- **`strtok`** finds every piece, if none is empty. -/
theorem strtok_eq_splitOn (h : [] ∉ s.splitOn sep) : strtok sep s = s.splitOn sep := by
  rw [strtok, List.filter_eq_self]
  intro piece hpiece
  simpa using fun he : piece = [] => h (he ▸ hpiece)

/-! ### Tokens -/

@[simp] theorem strtok_nil (sep : UInt8) : strtok sep [] = [] := by
  simp [strtok]

/-- **The tokens on both sides** of a separator. -/
theorem strtok_append_cons (sep : UInt8) (s t : Bytes) :
    strtok sep (s ++ sep :: t) = strtok sep s ++ strtok sep t := by
  rw [strtok, List.splitOn_append_cons_self, List.filter_append]
  rfl

/-- A text without a separator is a token, unless it is empty. -/
theorem strtok_of_not_mem (h : sep ∉ s) : strtok sep s = if s = [] then [] else [s] := by
  rw [strtok, List.splitOn_eq_singleton h]
  split_ifs with hs <;> simp [hs]

/-- Behind a separator a token begins. -/
theorem strtok_append {xs piece : Bytes} (hxs : xs = [] ∨ xs.getLast? = some sep)
    (hpiece : sep ∉ piece) :
    strtok sep (xs ++ piece) = strtok sep xs ++ if piece = [] then [] else [piece] := by
  rw [← strtok_of_not_mem hpiece]
  rcases hxs with rfl | hlast
  · rw [strtok_nil]
    rfl
  · obtain ⟨ys, rfl⟩ := List.getLast?_eq_some_iff.mp hlast
    rw [List.append_assoc, List.singleton_append, strtok_append_cons, strtok_append_cons,
      strtok_nil, List.append_nil]

/-- Separators at the end are of no matter. -/
theorem strtok_append_of_forall_eq (h : ∀ b ∈ t, b = sep) : strtok sep (s ++ t) = strtok sep s := by
  induction t generalizing s with
  | nil => rw [List.append_nil]
  | cons b t ih =>
    have ht := fun c hc => h c (List.mem_cons_of_mem _ hc)
    have hnone : strtok sep t = [] := by
      have hempty := ih (s := []) ht
      rwa [List.nil_append, strtok_nil] at hempty
    rw [h b List.mem_cons_self, strtok_append_cons, hnone, List.append_nil]

/-- A text that does not consist of separators has a token. -/
theorem strtok_ne_nil (hmem : b ∈ s) (hb : b ≠ sep) : strtok sep s ≠ [] := by
  induction s with
  | nil => cases hmem
  | cons c t ih =>
    by_cases hc : c = sep
    · have hcons := strtok_append_cons sep [] t
      rw [List.nil_append, strtok_nil, List.nil_append] at hcons
      rw [hc, hcons]
      refine ih ((List.mem_cons.mp hmem).resolve_left ?_)
      rintro rfl
      exact hb hc
    · obtain ⟨p, ps, -, hcons⟩ := splitOn_cons_of_ne hc t
      rw [strtok, hcons]
      simp

variable {before behind : Bytes}

/-- A text is cut where its first bytes of a kind end. -/
theorem dropWhile_eq_iff {p : UInt8 → Bool} : s.dropWhile p = t ↔
    ∃ front, s = front ++ t ∧ (∀ c ∈ front, p c = true) ∧ ∀ c, t.head? = some c → p c = false := by
  constructor
  · rintro rfl
    refine ⟨s.takeWhile p, List.takeWhile_append_dropWhile.symm,
      fun c hc => List.mem_takeWhile_imp hc, fun c hc => ?_⟩
    have hnot := List.head?_dropWhile_not p s
    rwa [hc] at hnot
  · rintro ⟨front, rfl, hfront, hstop⟩
    exact (takeWhile_dropWhile_append hfront hstop).2

/-- `strchr` cuts at the first byte that it looks for. -/
theorem strchr_eq_some_iff :
    strchr b s = some (before, behind) ↔ s = before ++ b :: behind ∧ b ∉ before := by
  unfold strchr
  constructor
  · intro h
    split_ifs at h with hb
    obtain ⟨rfl, rfl⟩ := Prod.mk.inj (Option.some.inj h)
    have hne : s.dropWhile (· ≠ b) ≠ [] := fun hnil => by
      simpa using List.dropWhile_eq_nil_iff.mp hnil b hb
    have hhead := List.head_dropWhile_not (fun c => decide (c ≠ b)) hne
    have hcons : s.dropWhile (· ≠ b) = b :: (s.dropWhile (· ≠ b)).tail := by
      conv_lhs => rw [← List.cons_head_tail hne]
      rw [show (s.dropWhile (· ≠ b)).head hne = b by simpa using hhead]
    refine ⟨?_, fun hmem => by simpa using List.mem_takeWhile_imp hmem⟩
    rw [← hcons, List.takeWhile_append_dropWhile]
  · rintro ⟨rfl, hb⟩
    obtain ⟨htake, hdrop⟩ := takeWhile_dropWhile_ne hb behind
    rw [if_pos (by simp), htake, hdrop, List.tail_cons]

/-- `strrchr` cuts at the last one. -/
theorem strrchr_eq_some_iff :
    strrchr b s = some (before, behind) ↔ s = before ++ b :: behind ∧ b ∉ behind := by
  unfold strrchr
  rw [Option.map_eq_some_iff]
  constructor
  · rintro ⟨⟨y, x⟩, h, hcut⟩
    obtain ⟨rfl, rfl⟩ := Prod.mk.inj hcut
    obtain ⟨hs, hb⟩ := strchr_eq_some_iff.mp h
    refine ⟨?_, fun hmem => hb (List.mem_reverse.mp hmem)⟩
    rw [← List.reverse_reverse s, hs]
    simp
  · rintro ⟨rfl, hb⟩
    refine ⟨(behind.reverse, before.reverse), strchr_eq_some_iff.mpr ⟨by simp, ?_⟩, by simp⟩
    simpa using hb

/-! ### Blanks -/

/-- Nothing is left of blanks. -/
theorem trim_eq_nil_iff : trim s = [] ↔ ∀ b ∈ s, isspace b = true := by
  rw [trim, List.rdropWhile_eq_nil_iff]
  constructor
  · intro h
    refine List.dropWhile_eq_nil_iff.mp ?_
    -- what is left in front would begin with a byte that is no blank
    cases hs : s.dropWhile isspace with
    | nil => rfl
    | cons b t =>
      have hhead := List.head?_dropWhile_not isspace s
      rw [hs] at h hhead
      exact absurd (h b List.mem_cons_self) (by simpa using hhead)
  · intro h b hb
    exact h b ((List.dropWhile_suffix _).subset hb)

/-- Blanks in front are trimmed. -/
theorem trim_append_left (h : trim s = []) (t : Bytes) : trim (s ++ t) = trim t := by
  rw [trim, List.dropWhile_append_of_pos (trim_eq_nil_iff.mp h), trim]

/-- Blanks behind are trimmed. -/
theorem trim_append_right (h : trim t = []) (s : Bytes) : trim (s ++ t) = trim s := by
  have hreverse : ∀ b ∈ t.reverse, isspace b = true := fun b hb =>
    trim_eq_nil_iff.mp h b (List.mem_reverse.mp hb)
  by_cases hs : trim s = []
  · rw [trim_append_left hs, h, hs]
  · have hne : s.dropWhile isspace ≠ [] := fun he => hs (by rw [trim, he, List.rdropWhile_nil])
    rw [trim, trim, List.dropWhile_append, if_neg (by simpa using hne), List.rdropWhile,
      List.reverse_append, List.dropWhile_append_of_pos hreverse, List.rdropWhile]

/-- A byte that is no blank is not trimmed. -/
theorem mem_trim (hb : isspace b = false) (h : b ∈ s) : b ∈ trim s := by
  rw [trim, List.rdropWhile, List.mem_reverse]
  exact mem_dropWhile hb (List.mem_reverse.mpr (mem_dropWhile hb h))

/-- Around a byte that is no blank, both sides are trimmed on their own. -/
theorem trim_append_cons (hb : isspace b = false) (s t : Bytes) :
    trim (s ++ b :: t) = s.dropWhile isspace ++ b :: t.rdropWhile isspace := by
  have hfront : (s ++ b :: t).dropWhile isspace = s.dropWhile isspace ++ b :: t := by
    have hstop : (b :: t).dropWhile isspace = b :: t := List.dropWhile_cons_of_neg (by simp [hb])
    rw [List.dropWhile_append]
    split_ifs with hnil
    · rw [hstop, List.isEmpty_iff.mp hnil, List.nil_append]
    · rfl
  have hbehind : ∀ u : Bytes,
      (u ++ b :: t).rdropWhile isspace = u ++ b :: t.rdropWhile isspace := by
    intro u
    have hstop : (b :: u.reverse).dropWhile isspace = b :: u.reverse :=
      List.dropWhile_cons_of_neg (by simp [hb])
    rw [List.rdropWhile, List.reverse_append, List.reverse_cons, List.append_assoc,
      List.singleton_append, List.dropWhile_append]
    split_ifs with hnil
    · rw [hstop, List.rdropWhile, List.isEmpty_iff.mp hnil]
      simp
    · simp [List.rdropWhile]
  rw [trim, hfront, hbehind]

/-- A text begins as what is in front of it, if that is not blank. -/
theorem head?_trim_append (h : trim s ≠ []) (t : Bytes) :
    (trim (s ++ t)).head? = (trim s).head? := by
  obtain ⟨b, hmem, hb⟩ : ∃ b ∈ s, isspace b = false := by
    by_contra hnone
    push Not at hnone
    exact h (trim_eq_nil_iff.mpr fun b hb => by simpa using hnone b hb)
  obtain ⟨u, v, rfl⟩ := List.append_of_mem hmem
  rw [List.append_assoc, List.cons_append, trim_append_cons hb, trim_append_cons hb]
  cases u.dropWhile isspace with
  | nil => rfl
  | cons c u => rfl

/-- How many bytes of a text are no blanks. -/
def weight (s : Bytes) : ℕ := s.countP fun b => !isspace b

@[simp] theorem weight_append (s t : Bytes) : weight (s ++ t) = weight s + weight t :=
  List.countP_append

theorem weight_cons_of_not_isspace (h : isspace b = false) (s : Bytes) :
    weight (b :: s) = weight s + 1 :=
  List.countP_cons_of_pos (by simp [h])

/-- Blanks have no weight, and nothing else. -/
theorem weight_eq_zero_iff : weight s = 0 ↔ trim s = [] := by
  rw [weight, List.countP_eq_zero, trim_eq_nil_iff]
  simp

theorem weight_pos_iff : 0 < weight s ↔ trim s ≠ [] := by
  rw [Nat.pos_iff_ne_zero, ne_eq, weight_eq_zero_iff]

theorem weight_dropWhile_isspace (s : Bytes) : weight (s.dropWhile isspace) = weight s := by
  induction s with
  | nil => rfl
  | cons b s ih =>
    by_cases hb : isspace b = true
    · rw [List.dropWhile_cons_of_pos hb, ih]
      simp [weight, hb]
    · rw [List.dropWhile_cons_of_neg hb]

/-- **Trimming** takes no weight away. -/
@[simp] theorem weight_trim (s : Bytes) : weight (trim s) = weight s := by
  have hreverse : ∀ t : Bytes, weight t.reverse = weight t := fun t => List.countP_reverse
  rw [trim, List.rdropWhile, hreverse, weight_dropWhile_isspace, hreverse,
    weight_dropWhile_isspace]

/-- The pieces of a text have its weight, but for the separators. -/
theorem weight_splitOn (hsep : isspace sep = false) (s : Bytes) :
    ((s.splitOn sep).map weight).sum + (s.splitOn sep).length = weight s + 1 := by
  induction s with
  | nil => simp [weight]
  | cons b s ih =>
    by_cases hb : b = sep
    · subst hb
      rw [splitOn_cons_self, weight_cons_of_not_isspace hsep, List.map_cons, List.sum_cons,
        List.length_cons]
      have hnil : weight [] = 0 := rfl
      omega
    · obtain ⟨p, ps, hsplit, hcons⟩ := splitOn_cons_of_ne hb s
      rw [hsplit, List.map_cons, List.sum_cons, List.length_cons] at ih
      rw [hcons, List.map_cons, List.sum_cons, List.length_cons]
      have hpiece : weight (b :: p) = weight [b] + weight p := weight_append [b] p
      have htext : weight (b :: s) = weight [b] + weight s := weight_append [b] s
      omega

end EdgeSentinel.CLib
