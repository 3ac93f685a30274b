import EdgeSentinel.CLib.Lines

/-!
# Records on lines

A program that appends one line for each of its records writes a stream that can be read back, as
long as a line can: the newlines say where the records are.

## The model

* `LineFormat` — how a record is written on a line, what a reader is to see of it, and the reader.
* `LineFormat.Legible` — the lines of these records are read back, and have no newline of their own.
* `stream`, `readStream` — records one after the other, and the reader of all of them. The reader
  looks at whole lines only: what stands behind the last newline is not complete.
* `findRecords` — the records among the lines of a text that has other lines too.
* `completeBlocks` — the blocks of a list that come to their ends.

## What is proved

* `readStream_stream` — **a stream is read back**, record by record.
* `readStream_prefix` — a stream that ends anywhere, in the middle of a line perhaps, is read as the
  records that have come so far, and nothing else.
* `forall₂_wholeLines` — lines that may be cut off, one written behind the other.
* `findRecords_text`, `findRecords_prefix` — the same for records among other lines.
* `completeBlocks_flatMap`, `completeBlocks_prefix` — blocks that are ended are found, and a list
  that ends anywhere has the first of them.
-/

namespace EdgeSentinel.Encoding

open CLib

/-- How records are written, one on a line. -/
structure LineFormat (α β : Type*) where
  /-- The line of a record, without its newline. -/
  write : α → Bytes
  /-- What a reader is to see of it. -/
  view : α → β
  /-- The reader of a line. -/
  read : Bytes → Option β

namespace LineFormat

variable {α β : Type*} {f : LineFormat α β} {records : List α}

/-- A record whose line can be read back. -/
structure Legible (f : LineFormat α β) (a : α) : Prop where
  /-- It is read back. -/
  read_write : f.read (f.write a) = some (f.view a)
  /-- It is one line. -/
  newline_not_mem : newline ∉ f.write a

/-- The line of a record, with its newline. -/
def line (f : LineFormat α β) (a : α) : Bytes := f.write a ++ [newline]

/-- Records one after the other. -/
def stream (f : LineFormat α β) (records : List α) : Bytes := records.flatMap f.line

/-- The lines of a stream that are complete. -/
def wholeLines (content : Bytes) : List Bytes :=
  (physicalLines content).filter fun l => l.getLast? = some newline

/-- The reader of a stream. -/
def readStream (f : LineFormat α β) (content : Bytes) : Option (List β) :=
  (wholeLines content).mapM fun l => f.read (lineText l)

theorem stream_cons (a : α) (records : List α) :
    f.stream (a :: records) = f.write a ++ newline :: f.stream records := by
  rw [stream, List.flatMap_cons, line, List.append_assoc, List.singleton_append]
  rfl

theorem wholeLines_cons {s : Bytes} (h : newline ∉ s) (content : Bytes) :
    wholeLines (s ++ newline :: content) = (s ++ [newline]) :: wholeLines content := by
  rw [wholeLines, physicalLines_append h, List.filter_cons_of_pos (by simp)]
  rfl

/-- A text without a newline is no whole line. -/
theorem wholeLines_of_not_mem {s : Bytes} (h : newline ∉ s) : wholeLines s = [] := by
  have hlines := linesFrom_append h [] []
  rw [List.append_nil, linesFrom, List.nil_append] at hlines
  rw [wholeLines, physicalLines, hlines]
  split_ifs
  · rfl
  · refine List.filter_eq_nil_iff.mpr fun l hl => ?_
    rw [List.mem_singleton.mp hl]
    simpa using fun hlast => h (List.mem_of_getLast? hlast)

/-- The records that are whole are read back, and what is not whole is left. -/
theorem readStream_append (h : ∀ a ∈ records, f.Legible a) {rest : Bytes} (hrest : newline ∉ rest) :
    f.readStream (f.stream records ++ rest) = some (records.map f.view) := by
  induction records with
  | nil =>
    rw [stream, List.flatMap_nil, List.nil_append, readStream, wholeLines_of_not_mem hrest]
    rfl
  | cons a records ih =>
    rw [List.forall_mem_cons] at h
    obtain ⟨ha, h⟩ := h
    have ih := ih h
    rw [readStream] at ih
    rw [stream_cons, List.append_assoc, List.cons_append, readStream,
      wholeLines_cons ha.newline_not_mem, List.mapM_cons,
      lineText_append_newline ha.newline_not_mem, ha.read_write, ih]
    rfl

/-- **A stream is read back.** -/
theorem readStream_stream (h : ∀ a ∈ records, f.Legible a) :
    f.readStream (f.stream records) = some (records.map f.view) := by
  have hnil : newline ∉ ([] : Bytes) := List.not_mem_nil
  have happend := readStream_append h hnil
  rwa [List.append_nil] at happend

/-- The beginning of a stream is some whole records, and the beginning of a line. -/
theorem prefix_stream (h : ∀ a ∈ records, f.Legible a) {content : Bytes}
    (hbegins : content <+: f.stream records) :
    ∃ whole rest, whole <+: records ∧ newline ∉ rest ∧ content = f.stream whole ++ rest := by
  induction records generalizing content with
  | nil =>
    rw [stream, List.flatMap_nil, List.prefix_nil] at hbegins
    subst hbegins
    exact ⟨[], [], List.prefix_rfl, List.not_mem_nil, rfl⟩
  | cons a records ih =>
    rw [List.forall_mem_cons] at h
    obtain ⟨ha, h⟩ := h
    rw [stream_cons, List.append_cons] at hbegins
    rcases List.prefix_or_prefix_of_prefix hbegins (List.prefix_append _ _) with hshort | hlong
    · -- it ends with the line of the first record, or before
      rcases List.prefix_concat_iff.mp hshort with rfl | hshort
      · exact ⟨[a], [], by simp, List.not_mem_nil, by simp [stream, line]⟩
      · refine ⟨[], content, List.nil_prefix, fun hmem => ?_, rfl⟩
        exact ha.newline_not_mem (hshort.subset hmem)
    · obtain ⟨content, rfl⟩ := hlong
      obtain ⟨whole, rest, hwhole, hrest, rfl⟩ := ih h ((List.prefix_append_right_inj _).mp hbegins)
      refine ⟨a :: whole, rest, ?_, hrest, ?_⟩
      · exact (List.prefix_cons_inj a).mpr hwhole
      · simp [stream_cons]

/-- **A stream that ends anywhere** is read as the records that have come so far. -/
theorem readStream_prefix (h : ∀ a ∈ records, f.Legible a) {content : Bytes}
    (hbegins : content <+: f.stream records) :
    ∃ whole, whole <+: records ∧ f.readStream content = some (whole.map f.view) := by
  obtain ⟨whole, rest, hwhole, hrest, rfl⟩ := prefix_stream h hbegins
  exact ⟨whole, hwhole, readStream_append (fun a ha => h a (hwhole.subset ha)) hrest⟩

/-! ### Lines that are cut off -/

variable {pieces : List (α × Bytes)} {front : Bytes}

/-- The records of which the whole line has come. -/
def wholeRecords (f : LineFormat α β) (pieces : List (α × Bytes)) : List α :=
  (pieces.filter fun p => p.2 = f.line p.1).map Prod.fst

theorem wholeRecords_append (f : LineFormat α β) (pieces pieces' : List (α × Bytes)) :
    f.wholeRecords (pieces ++ pieces') = f.wholeRecords pieces ++ f.wholeRecords pieces' := by
  rw [wholeRecords, List.filter_append, List.map_append]
  rfl

theorem wholeRecords_cons_whole (a : α) (pieces : List (α × Bytes)) :
    f.wholeRecords ((a, f.line a) :: pieces) = a :: f.wholeRecords pieces := by
  rw [wholeRecords, List.filter_cons_of_pos (by simp), List.map_cons]
  rfl

theorem wholeRecords_cons_torn {a : α} {piece : Bytes} (h : piece ≠ f.line a)
    (pieces : List (α × Bytes)) :
    f.wholeRecords ((a, piece) :: pieces) = f.wholeRecords pieces := by
  rw [wholeRecords, List.filter_cons_of_neg (by simpa using h)]
  rfl

/-- **Lines of which each may be cut off**, one written behind the other: each whole one ends a line
of its own, and there are no other lines. What was cut off in front of it is on the same line. -/
theorem forall₂_wholeLines (h : ∀ p ∈ pieces, newline ∉ f.write p.1 ∧ p.2 <+: f.line p.1)
    (hfront : newline ∉ front) :
    List.Forall₂ (fun a l => f.line a <:+ l) (f.wholeRecords pieces)
      (wholeLines (front ++ pieces.flatMap Prod.snd)) := by
  induction pieces generalizing front with
  | nil =>
    rw [List.flatMap_nil, List.append_nil, wholeLines_of_not_mem hfront]
    exact .nil
  | cons p pieces ih =>
    obtain ⟨a, piece⟩ := p
    rw [List.forall_mem_cons] at h
    obtain ⟨⟨hwrite, hbegins⟩, h⟩ := h
    rw [List.flatMap_cons, ← List.append_assoc]
    by_cases hwhole : piece = f.line a
    · obtain rfl := hwhole
      have hline : newline ∉ front ++ f.write a := by simp [hfront, hwrite]
      rw [wholeRecords_cons_whole, line, ← List.append_assoc front,
        List.append_assoc (front ++ f.write a), List.singleton_append, wholeLines_cons hline]
      refine .cons ⟨front, (List.append_assoc _ _ _).symm⟩ ?_
      exact ih h (List.not_mem_nil : newline ∉ ([] : Bytes))
    · rw [wholeRecords_cons_torn hwhole]
      refine ih h ?_
      have hpiece := (List.prefix_concat_iff.mp hbegins).resolve_left hwhole
      rw [List.mem_append, not_or]
      exact ⟨hfront, fun hmem => hwrite (hpiece.subset hmem)⟩

/-- Lines that have come whole, or not at all, are a stream. -/
theorem flatMap_eq_stream (h : ∀ p ∈ pieces, p.2 = [] ∨ p.2 = f.line p.1) :
    pieces.flatMap Prod.snd = f.stream (f.wholeRecords pieces) := by
  induction pieces with
  | nil => rfl
  | cons p pieces ih =>
    obtain ⟨a, piece⟩ := p
    rw [List.forall_mem_cons] at h
    obtain ⟨hp, h⟩ := h
    rw [List.flatMap_cons, ih h]
    by_cases hwhole : piece = f.line a
    · obtain rfl := hwhole
      rw [wholeRecords_cons_whole]
      rfl
    · rw [wholeRecords_cons_torn hwhole, hp.resolve_right hwhole, List.nil_append]

/-! ### Records among other lines -/

/-- Lines as they are. -/
def bare : LineFormat Bytes Bytes where
  write := id
  view := id
  read := some

theorem legible_bare {l : Bytes} (h : newline ∉ l) : bare.Legible l := ⟨rfl, h⟩

/-- The records among the whole lines of a text. What is no record is left out. -/
def findRecords (f : LineFormat α β) (content : Bytes) : List β :=
  ((bare.readStream content).getD []).filterMap f.read

variable {lines : List Bytes}

/-- In a text of lines, the records are found. -/
theorem findRecords_text (f : LineFormat α β) (h : ∀ l ∈ lines, newline ∉ l) :
    f.findRecords (bare.stream lines) = lines.filterMap f.read := by
  rw [findRecords, readStream_stream fun l hl => legible_bare (h l hl)]
  simp [bare]

/-- **In a text that ends anywhere**, the first of them are. -/
theorem findRecords_prefix (f : LineFormat α β) (h : ∀ l ∈ lines, newline ∉ l) {content : Bytes}
    (hbegins : content <+: bare.stream lines) :
    f.findRecords content <+: lines.filterMap f.read := by
  obtain ⟨whole, hwhole, hread⟩ := readStream_prefix (fun l hl => legible_bare (h l hl)) hbegins
  rw [findRecords, hread]
  simpa [bare] using hwhole.filterMap f.read

end LineFormat

/-! ### Blocks -/

section Blocks

variable {α : Type*} {ends : α → Bool}

/-- The blocks of a list, each of them ended by an element that ends blocks. What stands behind
the last such element is not complete. -/
def completeBlocks (ends : α → Bool) : List α → List (List α)
  | [] => []
  | a :: as =>
    if ends a then [] :: completeBlocks ends as
    else match completeBlocks ends as with
      | [] => []
      | block :: blocks => (a :: block) :: blocks

/-- The first block is found. -/
theorem completeBlocks_append {block rest : List α} {e : α} (h : ∀ a ∈ block, ends a = false)
    (he : ends e = true) :
    completeBlocks ends (block ++ e :: rest) = block :: completeBlocks ends rest := by
  induction block with
  | nil => rw [List.nil_append, completeBlocks, if_pos he]
  | cons a block ih =>
    rw [List.forall_mem_cons] at h
    rw [List.cons_append, completeBlocks, h.1, ih h.2]
    rfl

/-- **Blocks that are ended** are found. -/
theorem completeBlocks_flatMap {blocks : List (List α)} {e : α}
    (h : ∀ block ∈ blocks, ∀ a ∈ block, ends a = false) (he : ends e = true) :
    completeBlocks ends (blocks.flatMap fun block => block ++ [e]) = blocks := by
  induction blocks with
  | nil => rfl
  | cons block blocks ih =>
    rw [List.forall_mem_cons] at h
    rw [List.flatMap_cons, List.append_assoc, List.singleton_append,
      completeBlocks_append h.1 he, ih h.2]

/-- **A list that ends anywhere** has the first blocks. -/
theorem completeBlocks_prefix {as bs : List α} (h : as <+: bs) :
    completeBlocks ends as <+: completeBlocks ends bs := by
  induction as generalizing bs with
  | nil => exact List.nil_prefix
  | cons a as ih =>
    cases bs with
    | nil => cases List.prefix_nil.mp h
    | cons b bs =>
      obtain ⟨rfl, htail⟩ := List.cons_prefix_cons.mp h
      have ih := ih htail
      rw [completeBlocks, completeBlocks]
      by_cases ha : ends a = true
      · rw [if_pos ha, if_pos ha]
        exact (List.prefix_cons_inj _).mpr ih
      · rw [if_neg ha, if_neg ha]
        cases hblocks : completeBlocks ends as with
        | nil => exact List.nil_prefix
        | cons block blocks =>
          rw [hblocks] at ih
          obtain ⟨rest, hrest⟩ := ih
          rw [← hrest]
          exact ⟨rest, rfl⟩

end Blocks

end EdgeSentinel.Encoding
