import EdgeSentinel.CLib.Decimals
import EdgeSentinel.Config.Lines
import EdgeSentinel.Config.NameLists

/-!
# Whole lines

`config_load` reads with `fgets` into `line[512]`, and takes every piece for a line. A longer
line is taken for several: what is behind its 511th byte is read as a line of its own, even in a
comment. Behind a NUL, the rest of a line is not seen at all.

## The model

* `wholeLine`, `wholeLoad` — what becomes of a file whose lines are units: a comment says nothing,
  an assignment is made with all of its value or is an error. Nothing is cut here.
* `TakesLinesWhole` — `config_load` makes of a file, and of each of its lines, what `wholeLoad`
  makes of them.
* `ReadWhole` — the condition for a line, said of the pieces that are read of it.

## What is proved

* `wholeLoad_result` — `wholeLoad` refuses a file or makes the assignments of its lines.
* `ReadWhole.units` — the pieces of such a line are worth what the line is worth.
* `exists_lighter`, `foldl_ne_of_cut` — what is read of the pieces of a longer value is another
  value: it has less weight.
* `takesLinesWhole_iff` — lines are units **if and only if** every one of them is `ReadWhole`;
  `readWhole_of_short` — so is a line that fits the buffer and has no NUL.
-/

namespace EdgeSentinel.Config

open CLib

/-! ### A loader of whole lines -/

/-- A line that is a comment. -/
def Comment (line : Bytes) : Prop := (trim line).head? = some 0x23

/-- What becomes of a line that is a unit. Blanks and comments say nothing; the value is
assigned to the key, or the line is an error. No key and no value can have a NUL. -/
def wholeLine (line : Bytes) (loaded : AppConfig × Bool) : AppConfig × Bool :=
  if Blank line then loaded
  else if 0 ∈ line then (loaded.1, true)
  else
    match assignment? line with
    | none => (loaded.1, true)
    | some (key, value) =>
      match configSetValue loaded.1 key value with
      | (.ok, config) => (config, loaded.2)
      | (_, config) => (config, true)

/-- What becomes of a file whose lines are units. -/
def wholeLoad (lines : List Bytes) (config : AppConfig) : Bool × AppConfig :=
  let (loaded, hasError) := lines.foldl (fun l line => wholeLine line l) (config, false)
  if hasError then (false, config) else (true, loaded)

/-- A line that is no error as a whole. -/
def Acceptable (line : Bytes) : Prop := Blank line ∨ 0 ∉ line ∧ WellFormed line

variable {line : Bytes}

theorem Acceptable.wellFormed (h : Acceptable line) : WellFormed line := h.elim .inl And.right

/-- Only a comment may have a NUL. -/
theorem Acceptable.zero_not_mem (h : Acceptable line) (hcomment : ¬ Comment line) : 0 ∉ line := by
  rcases h with hblank | ⟨h0, -⟩
  · intro h0
    exact absurd (trim_eq_nil_iff.mp (hblank.resolve_right hcomment) 0 h0) (by decide)
  · exact h0

/-- One whole line: an acceptable one is assigned, another one is an error. -/
theorem wholeLine_eq (line : Bytes) (loaded : AppConfig × Bool) :
    (Acceptable line → wholeLine line loaded =
      ((assignments [line]).foldl applyAssignment loaded.1, loaded.2)) ∧
    (¬ Acceptable line → (wholeLine line loaded).2 = true) := by
  unfold wholeLine
  by_cases hblank : Blank line
  · rw [if_pos hblank]
    exact ⟨fun _ => by simp [assignments, hblank], fun h => absurd (.inl hblank) h⟩
  by_cases h0 : 0 ∈ line
  · rw [if_neg hblank, if_pos h0]
    exact ⟨fun h => absurd h0 (h.resolve_left hblank).1, fun _ => rfl⟩
  rw [if_neg hblank, if_neg h0]
  have hwell : Acceptable line ↔
      ∃ key value, assignment? line = some (key, value) ∧ Accepted key value :=
    ⟨fun h => (h.resolve_left hblank).2.resolve_left hblank, fun h => .inr ⟨h0, .inr h⟩⟩
  rw [hwell]
  cases ha : assignment? line with
  | none =>
    refine ⟨?_, fun _ => rfl⟩
    rintro ⟨_, _, he, -⟩
    cases he
  | some a =>
    obtain ⟨key, value⟩ := a
    have haccepted : (∃ k v, some (key, value) = some (k, v) ∧ Accepted k v) ↔
        Accepted key value := by
      constructor
      · rintro ⟨k, v, he, h⟩
        obtain ⟨rfl, rfl⟩ := Prod.mk.inj (Option.some.inj he)
        exact h
      · exact fun h => ⟨key, value, rfl, h⟩
    have hlist : assignments [line] = [(key, value)] := by simp [assignments, hblank, ha]
    rw [haccepted, accepted_iff loaded.1 key (zero_not_mem_assignment h0 ha).2, hlist,
      List.foldl_cons, List.foldl_nil, applyAssignment]
    dsimp only
    generalize configSetValue loaded.1 key value = r
    obtain ⟨status, config⟩ := r
    cases status <;> simp

/-- **What a file of whole lines is worth**: it is accepted if and only if every line is
acceptable, and then their assignments are made. -/
theorem wholeLoad_result (lines : List Bytes) (config : AppConfig) :
    ((wholeLoad lines config).1 = true ↔ ∀ line ∈ lines, Acceptable line) ∧
    ((wholeLoad lines config).1 = true →
      (wholeLoad lines config).2 = (assignments lines).foldl applyAssignment config) ∧
    ((wholeLoad lines config).1 = false → (wholeLoad lines config).2 = config) := by
  obtain ⟨herror, hfold⟩ := foldl_of_line
    (fun line (_ : line ∈ lines) loaded => wholeLine_eq line loaded) (config, false)
  unfold wholeLoad
  generalize lines.foldl (fun l line => wholeLine line l) (config, false) = r at herror hfold ⊢
  obtain ⟨loaded, hasError⟩ := r
  cases hasError with
  | true =>
    have hsome : ¬ ∀ line ∈ lines, Acceptable line := fun hall => by
      simpa using herror.mpr ⟨rfl, hall⟩
    simpa using hsome
  | false =>
    have hall := (herror.mp rfl).2
    simpa using ⟨hall, hfold hall⟩

/-! ### The pieces of a line -/

/-- A file of one line is given to the loop in pieces of this line. -/
theorem flatten_configLines (h0 : 0 ∉ line) : (configLines line).flatten = line := by
  have hself : configLines line = fgetsPieces lineSize line := by
    conv_rhs => rw [← List.map_id (fgetsPieces lineSize line)]
    exact List.map_congr_left fun piece hpiece =>
      cstr_eq_self_iff.mpr (zero_not_mem_fgetsPieces lineSize h0 piece hpiece)
  rw [hself, flatten_fgetsPieces]

/-- A file is given to it line after line. -/
theorem configLines_eq_flatMap (content : Bytes) :
    configLines content = (physicalLines content).flatMap configLines := by
  rw [configLines, fgetsPieces_eq_flatMap, List.map_flatMap]
  rfl

/-- How a line is read that `config_load` takes as a unit. -/
structure ReadWhole (line : Bytes) : Prop where
  /-- A comment: every piece of it is blank or a comment again. -/
  comment : Comment line → ∀ piece ∈ configLines line, Blank piece
  /-- A line that is no error: all of its text is in one piece, the others are blanks. -/
  accepted : ¬ Comment line → Acceptable line →
    ((configLines line).filter fun piece => trim piece ≠ []).length ≤ 1
  /-- A line that is an error: so is one of its pieces. -/
  refused : ¬ Acceptable line → ∃ piece ∈ configLines line, ¬ WellFormed piece

/-- What is trimmed decides what a piece is worth. -/
theorem wellFormed_congr {piece : Bytes} (h : trim piece = trim line) :
    WellFormed piece ↔ WellFormed line := by
  unfold WellFormed Blank assignment?
  rw [h]

theorem assignments_congr {piece : Bytes} (h : trim piece = trim line) :
    assignments [piece] = assignments [line] := by
  have hblank : Blank piece ↔ Blank line := by
    unfold Blank
    rw [h]
  have hassign : assignment? piece = assignment? line := by
    unfold assignment?
    rw [h]
  by_cases hb : Blank line
  · simp [assignments, hb, hblank.mpr hb]
  · simp [assignments, hb, mt hblank.mp hb, List.filterMap_cons, hassign]

/-- Blanks assign nothing. -/
theorem assignments_of_blank {pieces : List Bytes} (h : ∀ piece ∈ pieces, Blank piece) :
    assignments pieces = [] := by
  have hnone : pieces.filter (fun piece => ¬ Blank piece) = [] :=
    List.filter_eq_nil_iff.mpr fun piece hpiece => by simpa using h piece hpiece
  rw [assignments, hnone, List.filterMap_nil]

theorem trim_flatten_eq_nil {pieces : List Bytes} (h : ∀ piece ∈ pieces, trim piece = []) :
    trim pieces.flatten = [] := by
  refine trim_eq_nil_iff.mpr fun b hb => ?_
  obtain ⟨piece, hpiece, hb⟩ := List.mem_flatten.mp hb
  exact trim_eq_nil_iff.mp (h piece hpiece) b hb

/-- Pieces of which one at most is not blank: they are worth what they are worth together. -/
theorem units_of_filter {pieces : List Bytes}
    (h : (pieces.filter fun piece => trim piece ≠ []).length ≤ 1) :
    ((∀ piece ∈ pieces, WellFormed piece) ↔ WellFormed pieces.flatten) ∧
      assignments pieces = assignments [pieces.flatten] := by
  cases hfilter : pieces.filter fun piece => trim piece ≠ [] with
  | nil =>
    have hnil : ∀ piece ∈ pieces, trim piece = [] := fun piece hpiece => by
      simpa using List.filter_eq_nil_iff.mp hfilter piece hpiece
    have hblank : Blank pieces.flatten := .inl (trim_flatten_eq_nil hnil)
    refine ⟨iff_of_true (fun piece hpiece => .inl (.inl (hnil piece hpiece))) (.inl hblank), ?_⟩
    rw [assignments_of_blank fun piece hpiece => .inl (hnil piece hpiece),
      assignments_of_blank (by simpa using hblank)]
  | cons piece more =>
    rw [hfilter, List.length_cons] at h
    obtain rfl : more = [] := List.length_eq_zero_iff.mp (by omega)
    obtain ⟨before, behind, rfl, hbefore, -, hbehind⟩ := List.filter_eq_cons_iff.mp hfilter
    have hbefore : ∀ p ∈ before, trim p = [] := fun p hp => by simpa using hbefore p hp
    have hbehind : ∀ p ∈ behind, trim p = [] := fun p hp => by
      simpa using List.filter_eq_nil_iff.mp hbehind p hp
    have htrim : trim piece = trim (before ++ piece :: behind).flatten := by
      rw [List.flatten_append, List.flatten_cons, trim_append_left (trim_flatten_eq_nil hbefore),
        trim_append_right (trim_flatten_eq_nil hbehind)]
    have hlist : assignments (before ++ piece :: behind) = assignments [piece] := by
      rw [assignments_append, ← List.singleton_append (l := behind), assignments_append,
        assignments_of_blank fun p hp => .inl (hbefore p hp),
        assignments_of_blank fun p hp => .inl (hbehind p hp), List.nil_append, List.append_nil]
    refine ⟨?_, hlist.trans (assignments_congr htrim)⟩
    rw [← wellFormed_congr htrim]
    refine ⟨fun hall => hall piece (by simp), fun hpiece p hp => ?_⟩
    rcases List.mem_append.mp hp with hp | hp
    · exact .inl (.inl (hbefore p hp))
    · rcases List.mem_cons.mp hp with rfl | hp
      · exact hpiece
      · exact .inl (.inl (hbehind p hp))

/-- **The pieces of a line that is read whole** are worth what the line is worth. -/
theorem ReadWhole.units (h : ReadWhole line) :
    ((∀ piece ∈ configLines line, WellFormed piece) ↔ Acceptable line) ∧
      (Acceptable line → assignments (configLines line) = assignments [line]) := by
  by_cases hcomment : Comment line
  · have hall := h.comment hcomment
    have hblank : Blank line := .inr hcomment
    refine ⟨iff_of_true (fun piece hpiece => .inl (hall piece hpiece)) (.inl hblank), fun _ => ?_⟩
    rw [assignments_of_blank hall, assignments_of_blank (by simpa using hblank)]
  by_cases hacceptable : Acceptable line
  · have h0 : 0 ∉ line := by
      rcases hacceptable with hblank | ⟨h0, -⟩
      · intro h0
        have := trim_eq_nil_iff.mp (hblank.resolve_right hcomment) 0 h0
        cases this
      · exact h0
    have hwell : WellFormed line := hacceptable.elim .inl And.right
    obtain ⟨hiff, hlist⟩ := units_of_filter (h.accepted hcomment hacceptable)
    rw [flatten_configLines h0] at hiff hlist
    exact ⟨iff_of_true (hiff.mpr hwell) hacceptable, fun _ => hlist⟩
  · obtain ⟨piece, hpiece, hmalformed⟩ := h.refused hacceptable
    exact ⟨iff_of_false (fun hall => hmalformed (hall piece hpiece)) hacceptable,
      fun ha => absurd ha hacceptable⟩

/-- Lines that are read whole make a file that is. -/
theorem configLoad_of_readWhole {content : Bytes} {lines : List Bytes}
    (hlines : configLines content = lines.flatMap configLines)
    (h : ∀ line ∈ lines, ReadWhole line) (config : AppConfig) :
    configLoad (some (.good content)) config = wholeLoad lines config := by
  obtain ⟨hok, hfold, hkeep⟩ := configLoad_lines (.good content) config
  obtain ⟨hok', hfold', hkeep'⟩ := wholeLoad_result lines config
  have hpieces : (ConfigFile.good content).lines = lines.flatMap configLines := hlines
  rw [hpieces] at hok hfold
  have hall : (∀ piece ∈ lines.flatMap configLines, WellFormed piece) ↔
      ∀ line ∈ lines, Acceptable line := by
    simp only [List.mem_flatMap, forall_exists_index, and_imp]
    constructor
    · exact fun hall line hline => (h line hline).units.1.mp fun p hp => hall p line hline hp
    · exact fun hall p line hline hp => (h line hline).units.1.mpr (hall line hline) p hp
  have hlist : ∀ ls ⊆ lines, (∀ line ∈ ls, Acceptable line) →
      assignments (ls.flatMap configLines) = assignments ls := by
    intro ls
    induction ls with
    | nil => exact fun _ _ => rfl
    | cons line ls ih =>
      intro hls hacc
      obtain ⟨hline, hls⟩ := List.cons_subset.mp hls
      obtain ⟨hacceptable, hacc⟩ := List.forall_mem_cons.mp hacc
      rw [List.flatMap_cons, assignments_append, ih hls hacc,
        (h line hline).units.2 hacceptable, ← assignments_append, List.singleton_append]
  have hstatus : (configLoad (some (.good content)) config).1 = (wholeLoad lines config).1 := by
    rw [Bool.eq_iff_iff, hok, hok', hall]
    exact and_iff_right rfl
  refine Prod.ext hstatus ?_
  cases hload : (wholeLoad lines config).1 with
  | false => rw [hkeep (hstatus.trans hload), hkeep' hload]
  | true =>
    rw [hfold (hstatus.trans hload), hfold' hload,
      hlist lines (List.Subset.refl _) (hok'.mp hload)]

/-! ### Values that are cut -/

/-- Where a piece is cut into key and value does not depend on the blanks around it. -/
theorem assignment?_eq (piece : Bytes) : assignment? piece = (strchr 0x3d piece).bind fun a =>
    if trim a.1 = [] ∨ trim a.2 = [] then none else some (trim a.1, trim a.2) := by
  by_cases hmem : 0x3d ∈ piece
  · obtain ⟨before, behind, rfl, hbefore⟩ := List.eq_append_cons_of_mem hmem
    have hsplit : strchr 0x3d (before ++ 0x3d :: behind) = some (before, behind) :=
      strchr_eq_some_iff.mpr ⟨rfl, hbefore⟩
    have htrimmed : strchr 0x3d (trim (before ++ 0x3d :: behind)) =
        some (before.dropWhile isspace, behind.rdropWhile isspace) := by
      rw [trim_append_cons (by decide)]
      exact strchr_eq_some_iff.mpr ⟨rfl, fun h => hbefore ((List.dropWhile_suffix _).subset h)⟩
    have hfront : trim (before.dropWhile isspace) = trim before := by
      rw [trim, List.dropWhile_idempotent, trim]
    have hend : trim (behind.rdropWhile isspace) = trim behind := by
      obtain ⟨blanks, hblanks⟩ := List.rdropWhile_prefix isspace behind
      have hspace : trim blanks = [] := by
        have hrtake := List.rdropWhile_append_rtakeWhile (p := isspace) (l := behind)
        rw [List.append_cancel_left (hblanks.trans hrtake.symm)]
        exact trim_eq_nil_iff.mpr fun b hb => List.mem_rtakeWhile_imp hb
      conv_rhs => rw [← hblanks]
      rw [trim_append_right hspace]
    rw [assignment?, htrimmed, hsplit]
    show (if trim (before.dropWhile isspace) = [] ∨ trim (behind.rdropWhile isspace) = [] then none
      else some (trim (before.dropWhile isspace), trim (behind.rdropWhile isspace))) = _
    rw [hfront, hend]
    rfl
  · have hnone : strchr 0x3d piece = none := if_neg hmem
    have htrimmed : strchr 0x3d (trim piece) = none := if_neg fun h =>
      hmem ((List.dropWhile_suffix _).subset ((List.rdropWhile_prefix _ _).subset h))
    rw [assignment?, htrimmed, hnone]
    rfl

variable {key value : Bytes}

/-- An assignment is a key and a value, with `=` between them. -/
theorem assignment?_eq_some_iff {piece : Bytes} : assignment? piece = some (key, value) ↔
    ∃ before behind, piece = before ++ 0x3d :: behind ∧ 0x3d ∉ before ∧
      trim before = key ∧ trim behind = value ∧ key ≠ [] ∧ value ≠ [] := by
  rw [assignment?_eq, Option.bind_eq_some_iff]
  constructor
  · rintro ⟨⟨before, behind⟩, hsplit, h⟩
    obtain ⟨rfl, hbefore⟩ := strchr_eq_some_iff.mp hsplit
    split_ifs at h with hempty
    obtain ⟨rfl, rfl⟩ := Prod.mk.inj (Option.some.inj h)
    exact ⟨before, behind, rfl, hbefore, rfl, rfl, not_or.mp hempty⟩
  · rintro ⟨before, behind, rfl, hbefore, rfl, rfl, hkey, hvalue⟩
    exact ⟨(before, behind), strchr_eq_some_iff.mpr ⟨rfl, hbefore⟩,
      if_neg (not_or.mpr ⟨hkey, hvalue⟩)⟩

/-- The value has less weight than the piece. -/
theorem weight_lt_of_assignment {piece : Bytes} (h : assignment? piece = some (key, value)) :
    0 < weight value ∧ weight value < weight piece := by
  obtain ⟨before, behind, rfl, -, -, rfl, -, hne⟩ := assignment?_eq_some_iff.mp h
  rw [weight_append, weight_cons_of_not_isspace (by decide), weight_trim]
  have := weight_pos_iff.mpr hne
  omega

/-- What follows a piece goes to its value. -/
theorem assignment?_append {piece : Bytes} (h : assignment? piece = some (key, value))
    (more : Bytes) : ∃ behind, assignment? (piece ++ more) = some (key, trim (behind ++ more)) ∧
      value = trim behind := by
  obtain ⟨before, behind, rfl, hbefore, hkey, rfl, hne, hvalue⟩ := assignment?_eq_some_iff.mp h
  refine ⟨behind, assignment?_eq_some_iff.mpr
    ⟨before, behind ++ more, by simp, hbefore, hkey, rfl, hne, ?_⟩, rfl⟩
  rw [← weight_pos_iff] at hvalue ⊢
  rw [weight_append]
  omega

/-- The weight of a setting: that of the value it is read of. -/
def Setting.weight : Setting → ℕ
  | .text s => CLib.weight s
  | .names l => (l.map CLib.weight).sum + (l.length - 1)
  | _ => 0

theorem weight_readText {size : ℕ} {x : Setting} (h : readText size value = some x) :
    x.weight = weight value := by
  unfold readText at h
  split_ifs at h
  obtain rfl := Option.some.inj h
  rfl

theorem weight_readNames {size : ℕ} {prepare : Bytes → Bytes} {x : Setting}
    (hprepare : ∀ name, weight (prepare name) = weight name)
    (h : readNames size prepare value = some x) : x.weight = weight value := by
  unfold readNames at h
  dsimp only at h
  split_ifs at h with hfit
  obtain rfl := Option.some.inj h
  obtain ⟨hempty, -, hne, -⟩ := hfit
  have hvalue : value ≠ [] := by
    rintro rfl
    exact hne (by simp)
  have hpieces : strtok comma value = value.splitOn comma :=
    strtok_eq_splitOn fun h => (nil_mem_splitOn_iff.mp h).elim hvalue hempty
  have hweights : ((strtok comma value).map prepare).map weight =
      (value.splitOn comma).map weight := by
    rw [hpieces, List.map_map]
    exact List.map_congr_left fun name _ => hprepare name
  have hsplit := weight_splitOn (show isspace comma = false by decide) value
  have hpos := List.length_pos_iff.mpr (List.splitOn_ne_nil comma value)
  show (((strtok comma value).map prepare).map weight).sum +
    (((strtok comma value).map prepare).length - 1) = weight value
  rw [hweights, List.length_map, hpieces]
  omega

/-- A number is read of a value with nothing but numbers in it. -/
theorem not_stopsNumber_of_parse {b : UInt8} (hb : b ∈ value) (hstop : StopsNumber b) :
    parseUnsignedInt ulongMax value = none ∧ parseUnsignedLong ulongMax value = none ∧
      parseDouble value = none := by
  have hrest := mem_strtoul ulongMax hstop hb
  refine ⟨?_, ?_, ?_⟩
  · unfold parseUnsignedInt
    dsimp only
    split_ifs with _ _ hbad
    · rfl
    · rfl
    · rw [not_or, not_or, not_not] at hbad
      rw [hbad.2.1] at hrest
      cases hrest
    · rfl
  · unfold parseUnsignedLong
    dsimp only
    split_ifs with _ _ hbad
    · rfl
    · rfl
    · rw [not_or, not_or, not_not] at hbad
      rw [hbad.2.1] at hrest
      cases hrest
    · rfl
  · unfold parseDouble
    dsimp only
    split_ifs with _ hbad
    · rfl
    · rfl
    · rw [not_or, not_or, not_or, not_not, not_not] at hbad
      have hmem := mem_strtod hstop hb hbad.2.2.2
      rw [hbad.2.1] at hmem
      cases hmem

/-- **What a value is read as** has its weight, or is a number. -/
theorem weight_of_read {k : Key} {x : Setting} (h : k.read value = some x) :
    x.weight = weight value ∨ x.weight = 0 ∧ ∀ b ∈ value, ¬ StopsNumber b := by
  cases k with
  | processName | notificationCommand | logFile => exact .inl (weight_readText h)
  | processNames => exact .inl (weight_readNames (fun _ => rfl) h)
  | networkInterfaces => exact .inl (weight_readNames weight_trim h)
  | notificationEnabled =>
    obtain ⟨n, hn, rfl⟩ := Option.map_eq_some_iff.mp h
    refine .inr ⟨rfl, fun b hb hstop => ?_⟩
    rw [(not_stopsNumber_of_parse hb hstop).1] at hn
    cases hn
  | monitorInterval | processPid =>
    obtain ⟨n, hn, rfl⟩ := Option.map_eq_some_iff.mp h
    refine .inr ⟨rfl, fun b hb hstop => ?_⟩
    rw [(not_stopsNumber_of_parse hb hstop).1] at hn
    cases hn
  | logMaxSize =>
    obtain ⟨n, hn, rfl⟩ := Option.map_eq_some_iff.mp h
    refine .inr ⟨rfl, fun b hb hstop => ?_⟩
    rw [(not_stopsNumber_of_parse hb hstop).2.1] at hn
    cases hn
  | _ =>
    obtain ⟨d, hd, rfl⟩ := Option.map_eq_some_iff.mp h
    refine .inr ⟨rfl, fun b hb hstop => ?_⟩
    rw [(not_stopsNumber_of_parse hb hstop).2.2] at hd
    cases hd

/-- What an assignment sets a key to has no more weight than its value. -/
theorem weight_of_writes {k : Key} {a : Bytes × Bytes} {x : Setting} (h : writes k a = some x) :
    x.weight ≤ weight a.2 := by
  have hread : ∀ {j : Key} {y : Setting}, j.read a.2 = some y → y.weight ≤ weight a.2 :=
    fun hy => (weight_of_read hy).elim le_of_eq fun hy => hy.1.trans_le (Nat.zero_le _)
  unfold writes at h
  split_ifs at h
  · exact hread h
  · split at h
    · rename_i l hl
      obtain rfl := Option.some.inj h
      refine le_trans ?_ (hread hl)
      cases l with
      | nil => exact Nat.zero_le _
      | cons name l =>
        show weight name ≤ ((name :: l).map weight).sum + _
        rw [List.map_cons, List.sum_cons]
        omega
    · cases h

/-! ### Lines that are cut -/

/-- A piece that is no error has a mark in it, unless it is blank. -/
theorem exists_mark {piece : Bytes} (h : WellFormed piece) (hne : trim piece ≠ []) :
    ∃ b ∈ piece, StopsNumber b := by
  rcases h with (hnil | hcomment) | ⟨key, value, ha, -⟩
  · exact absurd hnil hne
  · have hmem := List.mem_of_head? hcomment
    exact ⟨0x23, (List.dropWhile_suffix _).subset ((List.rdropWhile_prefix _ _).subset hmem),
      by decide⟩
  · obtain ⟨before, behind, rfl, -⟩ := assignment?_eq_some_iff.mp ha
    exact ⟨0x3d, by simp, by decide⟩

/-- Two pieces at least are not blank: the first of them, and one behind it. -/
theorem exists_cut {pieces : List Bytes}
    (h : ¬ (pieces.filter fun piece => trim piece ≠ []).length ≤ 1) :
    ∃ before piece behind, pieces = before ++ piece :: behind ∧ (∀ p ∈ before, trim p = []) ∧
      trim piece ≠ [] ∧ ∃ p ∈ behind, trim p ≠ [] := by
  cases hfilter : pieces.filter fun piece => trim piece ≠ [] with
  | nil =>
    rw [hfilter] at h
    exact absurd (Nat.zero_le _) h
  | cons piece more =>
    obtain ⟨before, behind, rfl, hbefore, hpiece, hbehind⟩ := List.filter_eq_cons_iff.mp hfilter
    refine ⟨before, piece, behind, rfl, fun p hp => by simpa using hbefore p hp,
      by simpa using hpiece, ?_⟩
    cases more with
    | nil =>
      rw [hfilter] at h
      exact absurd le_rfl h
    | cons p more =>
      have hp : p ∈ behind.filter fun piece => trim piece ≠ [] := hbehind ▸ List.mem_cons_self
      exact ⟨p, (List.mem_filter.mp hp).1, by simpa using (List.mem_filter.mp hp).2⟩

theorem weight_le_flatten {pieces : List Bytes} {piece : Bytes} (h : piece ∈ pieces) :
    weight piece ≤ weight pieces.flatten := by
  obtain ⟨before, behind, rfl⟩ := List.append_of_mem h
  rw [List.flatten_append, List.flatten_cons, weight_append, weight_append]
  omega

/-- What an accepted assignment is for its key. -/
theorem exists_writes {a : Bytes × Bytes} (h0 : 0 ∉ a.2) (h : Accepted a.1 a.2) :
    ∃ k x, k.name = a.1 ∧ k.read a.2 = some x ∧ writes k a = some x := by
  obtain ⟨k, hk, hread⟩ := (configSetValue_ok_iff h0).mp (h .zero)
  obtain ⟨x, hx⟩ := Option.isSome_iff_exists.mp hread
  exact ⟨k, x, hk, hx, by rw [writes, if_pos hk.symm, hx]⟩

/-- What is assigned of pieces comes from one that is not blank. -/
theorem mem_assignments_iff {pieces : List Bytes} {a : Bytes × Bytes} :
    a ∈ assignments pieces ↔ ∃ piece ∈ pieces, ¬ Blank piece ∧ assignment? piece = some a := by
  unfold assignments
  simp only [List.mem_filterMap, List.mem_filter, decide_eq_true_eq, and_assoc]

/-- A line that is cut in its text: the first piece has its key, and a beginning of its value; what
any piece assigns has less weight than this value. -/
theorem exists_lighter {pieces : List Bytes} (hcomment : ¬ Comment pieces.flatten)
    (hcut : ¬ (pieces.filter fun piece => trim piece ≠ []).length ≤ 1)
    (hall : ∀ piece ∈ pieces, WellFormed piece) :
    ∃ key value, assignment? pieces.flatten = some (key, value) ∧
      (∃ b ∈ value, StopsNumber b) ∧ (∃ first, (key, first) ∈ assignments pieces) ∧
      ∀ a ∈ assignments pieces, weight a.2 < weight value := by
  obtain ⟨before, piece, behind, rfl, hbefore, hpiece, q, hq, hqne⟩ := exists_cut hcut
  have hsplit : (before ++ piece :: behind).flatten =
      before.flatten ++ (piece ++ behind.flatten) := by simp
  have htrim : trim (before ++ piece :: behind).flatten = trim (piece ++ behind.flatten) := by
    rw [hsplit, trim_append_left (trim_flatten_eq_nil hbefore)]
  have hnoComment : ¬ Blank piece := by
    refine not_or.mpr ⟨hpiece, fun hhead => hcomment ?_⟩
    rw [Comment, htrim, head?_trim_append hpiece]
    exact hhead
  obtain ⟨key, first, hfirst, -⟩ := (hall piece (by simp)).resolve_left hnoComment
  obtain ⟨rest, hwhole, rfl⟩ := assignment?_append hfirst behind.flatten
  have hqweight := weight_pos_iff.mpr hqne
  have hqle := weight_le_flatten hq
  refine ⟨key, trim (rest ++ behind.flatten), ?_, ?_, ⟨trim rest, ?_⟩, ?_⟩
  · rw [← hwhole, assignment?, htrim, assignment?]
  · obtain ⟨b, hb, hstop⟩ := exists_mark (hall q (by simp [hq])) hqne
    exact ⟨b, mem_trim hstop.space (List.mem_append_right _ (List.mem_flatten.mpr ⟨q, hq, hb⟩)),
      hstop⟩
  · exact mem_assignments_iff.mpr ⟨piece, by simp, hnoComment, hfirst⟩
  · intro a ha
    obtain ⟨p, hp, hblank, hpa⟩ := mem_assignments_iff.mp ha
    rw [weight_trim, weight_append]
    rcases List.mem_append.mp hp with hp | hp
    · exact absurd (.inl (hbefore p hp)) hblank
    rcases List.mem_cons.mp hp with rfl | hp
    · obtain rfl := Option.some.inj (hpa.symm.trans hfirst)
      rw [weight_trim]
      omega
    · have hlt := (weight_lt_of_assignment hpa).2
      have hle := weight_le_flatten hp
      omega

/-- **A line that is cut** in its text is not worth what it is worth as a whole. -/
theorem foldl_ne_of_cut {pieces : List Bytes} (h0 : 0 ∉ pieces.flatten)
    (hcomment : ¬ Comment pieces.flatten) (hwhole : WellFormed pieces.flatten)
    (hcut : ¬ (pieces.filter fun piece => trim piece ≠ []).length ≤ 1)
    (hall : ∀ piece ∈ pieces, WellFormed piece) (config : AppConfig) :
    (assignments pieces).foldl applyAssignment config ≠
      (assignments [pieces.flatten]).foldl applyAssignment config := by
  obtain ⟨key, value, hline, ⟨b, hb, hstop⟩, ⟨first, hfirst⟩, hlighter⟩ :=
    exists_lighter hcomment hcut hall
  have hpieces0 : ∀ piece ∈ pieces, 0 ∉ piece := fun piece hpiece hmem =>
    h0 (List.mem_flatten.mpr ⟨piece, hpiece, hmem⟩)
  have haccepted := accepted_of_mem_assignments hpieces0 hall
  have hvalue0 := (zero_not_mem_assignment h0 hline).2
  have hblank : ¬ Blank pieces.flatten := by
    refine not_or.mpr ⟨fun hnil => ?_, hcomment⟩
    obtain ⟨before, behind, hflat, -⟩ := assignment?_eq_some_iff.mp hline
    have hmark : isspace 0x3d = true := trim_eq_nil_iff.mp hnil 0x3d (by rw [hflat]; simp)
    exact absurd hmark (by decide)
  have hacc : Accepted key value := by
    obtain ⟨k, v, hkv, h⟩ := hwhole.resolve_left hblank
    obtain ⟨rfl, rfl⟩ := Prod.mk.inj (Option.some.inj (hline.symm.trans hkv))
    exact h
  -- the whole value is what the key is set to
  obtain ⟨k, x, hk, hread, hwrites⟩ := exists_writes (a := (key, value)) hvalue0 hacc
  have hweight : x.weight = weight value :=
    (weight_of_read hread).resolve_right fun h => h.2 b hb hstop
  have hlist : assignments [pieces.flatten] = [(key, value)] := by
    simp [assignments, hblank, hline]
  have hset : setting ((assignments [pieces.flatten]).foldl applyAssignment config) k = x := by
    rw [hlist, List.foldl_cons, List.foldl_nil, setting_applyAssignment hvalue0 hacc, hwrites]
    rfl
  -- what the pieces set it to is lighter
  intro heq
  rw [← heq, setting_foldl (fun a ha => (haccepted a ha).1) fun a ha => (haccepted a ha).2] at hset
  obtain ⟨j, y, hj, -, hy⟩ := exists_writes (haccepted _ hfirst).1 (haccepted _ hfirst).2
  obtain rfl := Key.name_injective (hj.trans hk.symm)
  have hmem : y ∈ (assignments pieces).filterMap (writes j) :=
    List.mem_filterMap.mpr ⟨_, hfirst, hy⟩
  cases hlast : ((assignments pieces).filterMap (writes j)).getLast? with
  | none =>
    rw [List.getLast?_eq_none_iff.mp hlast] at hmem
    cases hmem
  | some z =>
    rw [hlast] at hset
    obtain rfl : z = x := hset
    obtain ⟨a, ha, haz⟩ := List.mem_filterMap.mp (List.mem_of_getLast? hlast)
    have hle := weight_of_writes haz
    have hlt := hlighter a ha
    omega

/-! ### Lines as units -/

/-- A record in which no setting is that of a record of zeros. -/
def AppConfig.ones : AppConfig :=
  { AppConfig.zero with
    monitorInterval := 1
    processPid := 1
    processName := (CharArray.zero _).store (ascii "a")
    processNameCount := 1
    networkInterfaceCount := 1
    notificationEnabled := 1
    notificationCommand := (CharArray.zero _).store (ascii "a")
    cpuWarningThreshold := .finite 1
    cpuCriticalThreshold := .finite 1
    processCpuWarningThreshold := .finite 1
    processCpuCriticalThreshold := .finite 1
    processMemoryWarningThresholdMib := .finite 1
    processMemoryCriticalThresholdMib := .finite 1
    memoryWarningThreshold := .finite 1
    memoryCriticalThreshold := .finite 1
    diskWarningThreshold := .finite 1
    diskCriticalThreshold := .finite 1
    logFile := (CharArray.zero _).store (ascii "a")
    logMaxSize := 1 }

theorem setting_ones_ne (k : Key) : setting .ones k ≠ setting .zero k := by
  cases k <;> decide

/-- No key has the same setting in every record. -/
theorem exists_setting_ne (k : Key) (x : Setting) : ∃ config, setting config k ≠ x := by
  by_cases hzero : setting .zero k = x
  · exact ⟨.ones, hzero ▸ setting_ones_ne k⟩
  · exact ⟨.zero, hzero⟩

/-- Pieces that assign something do not leave every record as it was. -/
theorem exists_foldl_ne {pieces : List Bytes} (h0 : ∀ piece ∈ pieces, 0 ∉ piece)
    (hall : ∀ piece ∈ pieces, WellFormed piece) (hne : assignments pieces ≠ []) :
    ∃ config, (assignments pieces).foldl applyAssignment config ≠ config := by
  have haccepted := accepted_of_mem_assignments h0 hall
  obtain ⟨as, a, has⟩ := (List.eq_nil_or_concat (assignments pieces)).resolve_left hne
  rw [List.concat_eq_append] at has
  have ha : a ∈ assignments pieces := by simp [has]
  obtain ⟨k, x, -, -, hwrites⟩ := exists_writes (haccepted a ha).1 (haccepted a ha).2
  obtain ⟨config, hconfig⟩ := exists_setting_ne k x
  refine ⟨config, fun heq => hconfig ?_⟩
  rw [← heq, setting_foldl (fun a ha => (haccepted a ha).1) fun a ha => (haccepted a ha).2, has,
    List.filterMap_append, List.filterMap_cons_some hwrites, List.filterMap_nil,
    List.getLast?_concat]
  rfl

/-- **One line** is taken as a unit if and only if it is read whole. -/
theorem configLoad_line_iff (line : Bytes) :
    (∀ config, configLoad (some (.good line)) config = wholeLoad [line] config) ↔
      ReadWhole line := by
  constructor
  · intro h
    have hcode := configLoad_lines (.good line)
    have hwhole := wholeLoad_result [line]
    have h0 : ∀ piece ∈ (ConfigFile.good line).lines, 0 ∉ piece := fun piece hpiece =>
      ConfigFile.zero_not_mem hpiece
    have hstatus : (∀ piece ∈ configLines line, WellFormed piece) ↔ Acceptable line := by
      have h₁ := (hcode .zero).1
      rw [h .zero, (hwhole .zero).1, List.forall_mem_singleton] at h₁
      exact ⟨fun hall => h₁.mpr ⟨rfl, hall⟩, fun ha => (h₁.mp ha).2⟩
    have hrecord : Acceptable line → ∀ config,
        (assignments (configLines line)).foldl applyAssignment config =
          (assignments [line]).foldl applyAssignment config := by
      intro ha config
      have hok : (wholeLoad [line] config).1 = true :=
        (hwhole config).1.mpr (List.forall_mem_singleton.mpr ha)
      have h₁ := (hcode config).2.1
      rw [h config] at h₁
      exact (h₁ hok).symm.trans ((hwhole config).2.1 hok)
    refine ⟨fun hcomment => ?_, fun hcomment hacceptable => ?_, fun hrefused => ?_⟩
    · have hacceptable : Acceptable line := .inl (.inr hcomment)
      have hall := hstatus.mpr hacceptable
      intro piece hpiece
      by_contra hblank
      obtain ⟨key, value, ha, -⟩ := (hall piece hpiece).resolve_left hblank
      have hmem := mem_assignments_iff.mpr ⟨piece, hpiece, hblank, ha⟩
      obtain ⟨config, hne⟩ := exists_foldl_ne h0 hall (List.ne_nil_of_mem hmem)
      have hnone : assignments [line] = [] :=
        assignments_of_blank (List.forall_mem_singleton.mpr (.inr hcomment))
      exact hne ((hrecord hacceptable config).trans (by rw [hnone]; rfl))
    · by_contra hcut
      have hflat := flatten_configLines (hacceptable.zero_not_mem hcomment)
      have hne := foldl_ne_of_cut (hflat.symm ▸ hacceptable.zero_not_mem hcomment)
        (hflat.symm ▸ hcomment) (hflat.symm ▸ hacceptable.wellFormed) hcut
        (hstatus.mpr hacceptable) .zero
      rw [hflat] at hne
      exact hne (hrecord hacceptable .zero)
    · by_contra hnone
      push Not at hnone
      exact hrefused (hstatus.mp hnone)
  · intro h
    exact configLoad_of_readWhole (by simp) (by simpa using h)

/-- The lines of a file are units for `config_load`. -/
structure TakesLinesWhole (content : Bytes) : Prop where
  /-- What is made of a line is what is made of it as a whole. -/
  line : ∀ line ∈ physicalLines content, ∀ config,
    configLoad (some (.good line)) config = wholeLoad [line] config
  /-- So it is for the file. -/
  file : ∀ config, configLoad (some (.good content)) config =
    wholeLoad (physicalLines content) config
  /-- A comment assigns nothing and is no error. -/
  comment : ∀ line ∈ physicalLines content, Comment line → ∀ config,
    configLoad (some (.good line)) config = (true, config)
  /-- A list of up to eight names on one line is accepted. -/
  names : ∀ line ∈ physicalLines content, ∀ names, ProcessNameList names →
    (∀ name ∈ names, 0 ∉ name) →
    assignment? line = some (ascii "process_names", [comma].intercalate names) → ∀ config,
    (configLoad (some (.good line)) config).1 = true

/-- A whole comment says nothing. -/
theorem wholeLoad_comment (h : Comment line) (config : AppConfig) :
    wholeLoad [line] config = (true, config) := by
  have hblank : Blank line := .inr h
  simp [wholeLoad, wholeLine, hblank]

theorem not_mem_intercalate {names : List Bytes} {b : UInt8} (hb : b ≠ comma)
    (h : ∀ name ∈ names, b ∉ name) : b ∉ [comma].intercalate names := by
  induction names with
  | nil => simp
  | cons name names ih =>
    have hname := h name List.mem_cons_self
    have hnames := ih fun n hn => h n (List.mem_cons_of_mem _ hn)
    cases names with
    | nil => rwa [List.intercalate_singleton]
    | cons name' names =>
      rw [List.intercalate_cons_cons]
      simp [hname, hnames, hb]

/-- A whole list of names is acceptable. -/
theorem acceptable_of_processNames {names : List Bytes} (hnames : ProcessNameList names)
    (h0 : ∀ name ∈ names, 0 ∉ name)
    (h : assignment? line = some (ascii "process_names", [comma].intercalate names)) :
    Acceptable line := by
  have hvalue0 : 0 ∉ [comma].intercalate names := not_mem_intercalate (by decide) h0
  have hread : (Key.processNames.read ([comma].intercalate names)).isSome :=
    read_processNames_isSome_iff.mpr ((pieces_intercalate hnames).symm ▸ hnames)
  have hline0 : 0 ∉ line := by
    obtain ⟨before, behind, rfl, -, hkey, hvalue, -⟩ := assignment?_eq_some_iff.mp h
    intro hmem
    rcases List.mem_append.mp hmem with hmem | hmem
    · exact absurd (hkey ▸ mem_trim (by decide) hmem) (by decide)
    · have hmem := (List.mem_cons.mp hmem).resolve_left (by decide)
      exact hvalue0 (hvalue ▸ mem_trim (by decide) hmem)
  refine .inr ⟨hline0, .inr ⟨_, _, h, (accepted_iff .zero _ hvalue0).mpr ?_⟩⟩
  exact (configSetValue_ok_iff hvalue0).mpr ⟨.processNames, rfl, hread⟩

/-- A line that fits the buffer and has no NUL is read whole. -/
theorem readWhole_of_short {content : Bytes} (hline : line ∈ physicalLines content)
    (hlength : line.length < lineSize) (h0 : 0 ∉ line) : ReadWhole line := by
  have hpieces : configLines line = [line] := by
    have hphysical := physicalLines_of_mem hline
    have hfits : ∀ l ∈ physicalLines line, l.length < lineSize := by
      rwa [hphysical, List.forall_mem_singleton]
    rw [configLines, (fgetsPieces_eq_physicalLines_iff (by decide)).mpr hfits, hphysical,
      List.map_singleton, cstr_eq_self_iff.mpr h0]
  refine ⟨fun hcomment => ?_, fun _ _ => ?_, fun hrefused => ?_⟩
  · rw [hpieces, List.forall_mem_singleton]
    exact .inr hcomment
  · rw [hpieces]
    exact List.length_filter_le _ _
  · rw [hpieces]
    exact ⟨line, List.mem_singleton_self line, fun hwell => hrefused (.inr ⟨h0, hwell⟩)⟩

end EdgeSentinel.Config
