import EdgeSentinel.CLib.Strings

/-!
# Lines and pieces

A stream of text has lines, each ended by its newline or by the end of the stream.
`fgets` does not deliver lines: it delivers pieces that fit its buffer.

## What is proved

* `physicalLines_append`, `eq_lineText_of_mem` — what the lines of a stream are.
* `length_lt_of_mem_fgetsPieces`, `flatten_fgetsPieces` — the pieces fit the buffer, and
  nothing is lost.
* `fgetsPieces_eq_physicalLines_iff` — the pieces are the lines **if and only if** every
  line fits the buffer.
* `fgetsFrom_append_newline`, `exists_head?_fgetsFrom` — what the first piece is.
* `fgetsPieces_eq_flatMap` — the pieces of a stream are the pieces of its lines.
* `fgetsUntilError_prefix`, `fgetsUntilError_eq_fgetsFrom` — what is delivered when reading
  fails.
-/

namespace EdgeSentinel.CLib

variable {size : ℕ} {content line : Bytes}

/-! ### Lines -/

/-- The lines of a stream that delivers `content`; `line` is what the running line has
had so far. -/
def linesFrom : (content line : Bytes) → List Bytes
  | [], line => if line = [] then [] else [line]
  | b :: content, line =>
    if b = newline then (line ++ [b]) :: linesFrom content [] else linesFrom content (line ++ [b])

/-- The lines of a stream, with their newlines. -/
def physicalLines (content : Bytes) : List Bytes := linesFrom content []

theorem linesFrom_append {s : Bytes} (h : newline ∉ s) (content line : Bytes) :
    linesFrom (s ++ content) line = linesFrom content (line ++ s) := by
  induction s generalizing line with
  | nil => simp
  | cons b s ih =>
    rw [List.mem_cons, not_or] at h
    rw [List.cons_append, linesFrom, if_neg (Ne.symm h.1), ih h.2, List.append_assoc,
      List.singleton_append]

/-- A line ends at its newline. -/
theorem physicalLines_append {s : Bytes} (h : newline ∉ s) (content : Bytes) :
    physicalLines (s ++ newline :: content) = (s ++ [newline]) :: physicalLines content := by
  rw [physicalLines, linesFrom_append h, linesFrom, if_pos rfl, List.nil_append]
  rfl

/-- The running line goes on for as long as there is something to read. -/
theorem exists_linesFrom_eq_cons (h : content ≠ []) (line : Bytes) :
    ∃ t ts, t ≠ [] ∧ linesFrom content line = (line ++ t) :: ts := by
  induction content generalizing line with
  | nil => exact absurd rfl h
  | cons b content ih =>
    rw [linesFrom]
    split_ifs
    · exact ⟨[b], _, by simp, rfl⟩
    · by_cases hc : content = []
      · subst hc
        refine ⟨[b], [], by simp, ?_⟩
        simp [linesFrom]
      · obtain ⟨t, ts, -, hts⟩ := ih hc (line ++ [b])
        exact ⟨b :: t, ts, by simp, by rw [hts, List.append_assoc, List.singleton_append]⟩

/-- The text of a line, without its newline. -/
def lineText (line : Bytes) : Bytes := line.takeWhile (· ≠ newline)

theorem lineText_of_not_mem (h : newline ∉ line) : lineText line = line :=
  List.takeWhile_eq_self_iff.mpr fun b hb => by simpa using fun he : b = newline => h (he ▸ hb)

theorem lineText_append_newline (h : newline ∉ line) : lineText (line ++ [newline]) = line := by
  rw [lineText, List.takeWhile_append_of_pos fun b hb => by
    simpa using fun he : b = newline => h (he ▸ hb)]
  simp

theorem eq_lineText_of_mem_linesFrom {l : Bytes} (hline : newline ∉ line)
    (h : l ∈ linesFrom content line) : l = lineText l ∨ l = lineText l ++ [newline] := by
  induction content generalizing line with
  | nil =>
    rw [linesFrom] at h
    split_ifs at h
    · cases h
    · rw [List.mem_singleton.mp h]
      exact .inl (lineText_of_not_mem hline).symm
  | cons b content ih =>
    rw [linesFrom] at h
    split_ifs at h with hb
    · obtain rfl | h := List.mem_cons.mp h
      · rw [hb]
        exact .inr (by rw [lineText_append_newline hline])
      · exact ih List.not_mem_nil h
    · refine ih ?_ h
      rw [List.mem_append, List.mem_singleton, not_or]
      exact ⟨hline, Ne.symm hb⟩

/-- A line is its text, with a newline or without one. -/
theorem eq_lineText_of_mem {l : Bytes} (h : l ∈ physicalLines content) :
    l = lineText l ∨ l = lineText l ++ [newline] :=
  eq_lineText_of_mem_linesFrom List.not_mem_nil h

theorem ne_nil_of_mem_linesFrom {l : Bytes} (h : l ∈ linesFrom content line) : l ≠ [] := by
  induction content generalizing line with
  | nil =>
    rw [linesFrom] at h
    split_ifs at h with hline
    · cases h
    · rwa [List.mem_singleton.mp h]
  | cons b content ih =>
    rw [linesFrom] at h
    split_ifs at h
    · obtain rfl | h := List.mem_cons.mp h
      · simp
      · exact ih h
    · exact ih h

/-- A text without a newline is one line, unless it is empty. -/
theorem physicalLines_of_not_mem (h : newline ∉ content) :
    physicalLines content = if content = [] then [] else [content] := by
  have hlines := linesFrom_append h [] []
  rwa [List.append_nil, List.nil_append] at hlines

/-- A line has one line. -/
theorem physicalLines_of_mem {l : Bytes} (h : l ∈ physicalLines content) :
    physicalLines l = [l] := by
  have htext : newline ∉ lineText l := fun hmem => by simpa using List.mem_takeWhile_imp hmem
  rcases eq_lineText_of_mem h with hl | hl
  · rw [physicalLines_of_not_mem (hl ▸ htext), if_neg (ne_nil_of_mem_linesFrom h)]
  · have hsplit := physicalLines_append htext []
    rwa [← hl] at hsplit

/-! ### Pieces -/

theorem flatten_fgetsFrom (size : ℕ) (content line : Bytes) :
    (fgetsFrom size content line).flatten = line ++ content := by
  induction content generalizing line with
  | nil =>
    rw [fgetsFrom]
    split_ifs with h
    · simp [h]
    · simp
  | cons b content ih =>
    rw [fgetsFrom]
    split_ifs
    · simp [ih]
    · simp [ih]

theorem flatten_fgetsPieces (size : ℕ) (content : Bytes) :
    (fgetsPieces size content).flatten = content := by
  rw [fgetsPieces, flatten_fgetsFrom, List.nil_append]

theorem length_lt_of_mem_fgetsFrom (line : Bytes) {piece : Bytes} (hline : line.length + 2 ≤ size)
    (h : piece ∈ fgetsFrom size content line) : piece.length < size := by
  induction content generalizing line with
  | nil =>
    rw [fgetsFrom] at h
    split_ifs at h
    · cases h
    · rw [List.mem_singleton.mp h]
      omega
  | cons b content ih =>
    rw [fgetsFrom] at h
    split_ifs at h with hb
    · rcases List.mem_cons.mp h with rfl | h
      · rw [List.length_append, List.length_singleton]
        omega
      · exact ih [] (by rw [List.length_nil]; omega) h
    · refine ih (line ++ [b]) ?_ h
      rw [List.length_append, List.length_singleton]
      have := not_or.mp hb
      omega

/-- A piece fits the buffer, with its NUL. -/
theorem length_lt_of_mem_fgetsPieces (hsize : 2 ≤ size) {piece : Bytes}
    (h : piece ∈ fgetsPieces size content) : piece.length < size :=
  length_lt_of_mem_fgetsFrom [] hsize h

/-- Lines that fit the buffer are read in one piece. -/
theorem fgetsFrom_eq_linesFrom (h : ∀ l ∈ linesFrom content line, l.length < size) :
    fgetsFrom size content line = linesFrom content line := by
  induction content generalizing line with
  | nil => rfl
  | cons b content ih =>
    rw [linesFrom] at h ⊢
    rw [fgetsFrom]
    by_cases hb : b = newline
    · rw [if_pos hb, List.forall_mem_cons] at h
      rw [if_pos (.inl hb), if_pos hb, ih h.2]
    · rw [if_neg hb] at h ⊢
      by_cases hfull : line.length + 2 = size
      · -- the buffer is full: the line must end here, with the stream
        have hc : content = [] := by
          by_contra hc
          obtain ⟨t, ts, ht, hts⟩ := exists_linesFrom_eq_cons hc (line ++ [b])
          have hlt := h (line ++ [b] ++ t) (hts ▸ List.mem_cons_self)
          have := List.length_pos_iff.mpr ht
          simp only [List.length_append, List.length_singleton] at hlt
          omega
        subst hc
        rw [if_pos (.inr hfull)]
        simp [fgetsFrom, linesFrom]
      · rw [if_neg (not_or.mpr ⟨hb, hfull⟩), ih h]

/-- **Pieces are lines** if and only if every line fits the buffer. -/
theorem fgetsPieces_eq_physicalLines_iff (hsize : 2 ≤ size) :
    fgetsPieces size content = physicalLines content ↔
      ∀ l ∈ physicalLines content, l.length < size := by
  constructor
  · intro h l hl
    exact length_lt_of_mem_fgetsPieces hsize (h.symm ▸ hl)
  · exact fgetsFrom_eq_linesFrom

/-! ### The first piece -/

/-- A stream that begins with a line that fits the buffer: the first piece is the line. -/
theorem fgetsFrom_append_newline {s : Bytes} (hs : newline ∉ s) (content line : Bytes)
    (hlt : line.length + s.length + 1 < size) :
    fgetsFrom size (s ++ newline :: content) line =
      (line ++ s ++ [newline]) :: fgetsFrom size content [] := by
  induction s generalizing line with
  | nil => simp [fgetsFrom]
  | cons b s ih =>
    rw [List.mem_cons, not_or] at hs
    rw [List.length_cons] at hlt
    rw [List.cons_append, fgetsFrom, if_neg (not_or.mpr ⟨Ne.symm hs.1, by omega⟩), ih hs.2]
    · simp
    · rw [List.length_append, List.length_singleton]
      omega

/-- A stream whose first line fits the buffer, but perhaps for its newline. -/
theorem exists_head?_fgetsFrom {s : Bytes} (hs : newline ∉ s) (hne : line ++ s ≠ [])
    (hfit : line.length + 2 ≤ size) (hlt : line.length + s.length < size)
    (hcontent : content = [] ∨ content.head? = some newline) :
    ∃ e, (fgetsFrom size (s ++ content) line).head? = some (line ++ s ++ e) ∧
      (e = [] ∨ e = [newline]) := by
  induction s generalizing line with
  | nil =>
    rw [List.append_nil] at hne ⊢
    cases content with
    | nil =>
      refine ⟨[], ?_, .inl rfl⟩
      rw [List.nil_append, fgetsFrom, if_neg hne, List.append_nil]
      rfl
    | cons b content =>
      obtain rfl : b = newline := by simpa using hcontent
      exact ⟨[newline], by rw [List.nil_append, fgetsFrom, if_pos (.inl rfl)]; rfl, .inr rfl⟩
  | cons b s ih =>
    rw [List.mem_cons, not_or] at hs
    rw [List.length_cons] at hlt
    rw [List.cons_append, fgetsFrom]
    by_cases hfull : line.length + 2 = size
    · -- the buffer is full, and nothing but the newline is left of the line
      obtain rfl : s = [] := List.length_eq_zero_iff.mp (by omega)
      exact ⟨[], by rw [if_pos (.inr hfull), List.append_nil]; rfl, .inl rfl⟩
    · rw [if_neg (not_or.mpr ⟨Ne.symm hs.1, hfull⟩)]
      have hlength : (line ++ [b]).length = line.length + 1 := by
        rw [List.length_append, List.length_singleton]
      obtain ⟨e, he, hend⟩ := @ih (line ++ [b]) hs.2 (by simp) (by omega) (by omega)
      exact ⟨e, by rw [he, List.append_assoc line, List.singleton_append], hend⟩

theorem exists_head?_fgetsPieces {s : Bytes} (hs : newline ∉ s) (hne : s ≠ [])
    (hlt : s.length < size) (hcontent : content = [] ∨ content.head? = some newline) :
    ∃ e, (fgetsPieces size (s ++ content)).head? = some (s ++ e) ∧ (e = [] ∨ e = [newline]) := by
  have hpos := List.length_pos_iff.mpr hne
  refine exists_head?_fgetsFrom hs hne ?_ ?_ hcontent
  · rw [List.length_nil]
    omega
  · rwa [List.length_nil, Nat.zero_add]

/-! ### A read that fails -/

/-- What is delivered before reading fails is also delivered of a stream that ends there. -/
theorem fgetsUntilError_prefix (size : ℕ) (content line : Bytes) :
    fgetsUntilError size content line <+: fgetsFrom size content line := by
  induction content generalizing line with
  | nil => exact List.nil_prefix
  | cons b content ih =>
    rw [fgetsUntilError, fgetsFrom]
    split_ifs
    · exact List.cons_prefix_cons.mpr ⟨rfl, ih []⟩
    · exact ih (line ++ [b])

/-- Nothing is lost when reading fails behind a newline. -/
theorem fgetsUntilError_eq_fgetsFrom (hline : newline ∉ line)
    (h : ∀ b, (line ++ content).getLast? = some b → b = newline) :
    fgetsUntilError size content line = fgetsFrom size content line := by
  induction content generalizing line with
  | nil =>
    rw [List.append_nil] at h
    cases hlast : line.getLast? with
    | none =>
      rw [List.getLast?_eq_none_iff.mp hlast]
      rfl
    | some b => exact absurd (h b hlast ▸ List.mem_of_getLast? hlast) hline
  | cons b content ih =>
    have hsplit : line ++ b :: content = (line ++ [b]) ++ content := by simp
    rw [fgetsUntilError, fgetsFrom]
    split_ifs with hend
    · congr 1
      refine ih List.not_mem_nil fun b' hb' => h b' ?_
      rw [List.nil_append] at hb'
      rw [hsplit, List.getLast?_append, hb']
      rfl
    · refine ih ?_ (hsplit ▸ h)
      rw [List.mem_append, List.mem_singleton, not_or]
      exact ⟨hline, fun he => hend (.inl he.symm)⟩

/-! ### Line after line -/

theorem fgetsFrom_append_newline_content {s : Bytes} (hs : newline ∉ s) (content line : Bytes) :
    fgetsFrom size (s ++ newline :: content) line =
      fgetsFrom size (s ++ [newline]) line ++ fgetsPieces size content := by
  induction s generalizing line with
  | nil => simp [fgetsFrom, fgetsPieces]
  | cons b s ih =>
    rw [List.mem_cons, not_or] at hs
    rw [List.cons_append, List.cons_append, fgetsFrom, fgetsFrom]
    split_ifs
    · rw [ih hs.2, List.cons_append]
    · rw [ih hs.2]

/-- **A stream is read line after line**: its pieces are the pieces of its lines. -/
theorem fgetsPieces_eq_flatMap (size : ℕ) (content : Bytes) :
    fgetsPieces size content = (physicalLines content).flatMap (fgetsPieces size) := by
  induction hn : content.length using Nat.strong_induction_on generalizing content with
  | _ n ih
  by_cases hmem : newline ∈ content
  · obtain ⟨s, rest, rfl, hs⟩ := List.eq_append_cons_of_mem hmem
    have hlength : rest.length < n := by
      rw [← hn, List.length_append, List.length_cons]
      omega
    have hrest := ih rest.length hlength rest rfl
    rw [physicalLines_append hs, List.flatMap_cons, ← hrest, fgetsPieces,
      fgetsFrom_append_newline_content hs]
    rfl
  · rw [physicalLines_of_not_mem hmem]
    split_ifs with hnil
    · rw [hnil]
      rfl
    · rw [List.flatMap_singleton]

end EdgeSentinel.CLib
