import Mathlib.Algebra.BigOperators.Ring.Finset
import EdgeSentinel.CLib.Numerals
import EdgeSentinel.CLib.Lines
import EdgeSentinel.CLib.Split
import EdgeSentinel.Totals.KeyedTotals
import EdgeSentinel.Config.Load
import EdgeSentinel.Monitor.System

/-!
# The totals of the network interfaces

`read_network_info_filtered` adds up two of the counters in the lines of `/proc/net/dev`, for the
interfaces that the configuration selects.

## The model

* `InterfaceLine.ParsesFrom` — which lines are an interface with its numbers, and
  `interfaceLine?`, how one is read.
* `NetDev` — a text of `/proc/net/dev`, and `NetDev.interfaces`, the interfaces in it.
* `NetDev.received`, `NetDev.transmitted` — the totals of the selected interfaces, as integers.

## What is proved

* `interfaceLine?_eq_some_iff` — the lines that are read are these lines.
* `scanNetworkLine_of_parsesFrom`, `scanNetworkLine_eq_none` — so does the `sscanf` of the source.
* `readNetworkInfoFiltered_eq` — the totals are stored modulo 2⁶⁴.
* `networkTotals_readNetworkInfoFiltered` — **the totals**: which lines they add up, and that they
  depend neither on the order of the lines nor on how the interfaces are listed.
-/

namespace EdgeSentinel.Monitor

open CLib Config Totals

/-! ### One line -/

/-- What a line of `/proc/net/dev` shows. -/
structure InterfaceLine where
  /-- The name of the interface. -/
  name : Bytes
  /-- The numbers behind it. -/
  values : List ℤ
  deriving DecidableEq

/-- Field 1: the bytes received. -/
def InterfaceLine.received (i : InterfaceLine) : ℤ := i.values.getD 0 0

/-- Field 9: the bytes sent. -/
def InterfaceLine.transmitted (i : InterfaceLine) : ℤ := i.values.getD 8 0

/-- A line is a name, a colon and 16 numbers: blanks, the name of at most 31 bytes, which has no
colon, and behind the colon the numbers. -/
def InterfaceLine.ParsesFrom (i : InterfaceLine) (text : Bytes) : Prop :=
  ∃ blanks behind rest, text = blanks ++ (i.name ++ 0x3a :: behind) ∧
    (∀ b ∈ blanks, isspace b = true) ∧ (∀ b, i.name.head? = some b → isspace b = false) ∧
    i.name ≠ [] ∧ 0x3a ∉ i.name ∧ i.name.length ≤ 31 ∧ Numerals 16 behind i.values rest

/-- The interface of a line. -/
def interfaceLine? (text : Bytes) : Option InterfaceLine := do
  let (name, behind) ← strchr 0x3a (text.dropWhile isspace)
  if name = [] ∨ 31 < name.length then none
  else
    let (values, _) ← numeralsOf 16 behind
    some ⟨name, values⟩

variable {text : Bytes} {i : InterfaceLine}

/-- Behind its blanks, a line is cut at its first colon. -/
theorem InterfaceLine.parsesFrom_iff : i.ParsesFrom text ↔ ∃ behind rest,
    text.dropWhile isspace = i.name ++ 0x3a :: behind ∧ i.name ≠ [] ∧ 0x3a ∉ i.name ∧
      i.name.length ≤ 31 ∧ Numerals 16 behind i.values rest := by
  constructor
  · rintro ⟨blanks, behind, rest, htext, hblank, hhead, hne, hrest⟩
    refine ⟨behind, rest, dropWhile_eq_iff.mpr ⟨blanks, htext, hblank, fun b hb => hhead b ?_⟩,
      hne, hrest⟩
    rwa [List.head?_append_of_ne_nil _ hne] at hb
  · rintro ⟨behind, rest, hdrop, hrest⟩
    obtain ⟨blanks, htext, hblank, hhead⟩ := dropWhile_eq_iff.mp hdrop
    refine ⟨blanks, behind, rest, htext, hblank, fun b hb => hhead b ?_, hrest⟩
    rw [List.head?_append, hb, Option.some_or]

/-- **The lines that are read** are those that show an interface. -/
theorem interfaceLine?_eq_some_iff : interfaceLine? text = some i ↔ i.ParsesFrom text := by
  obtain ⟨name, values⟩ := i
  unfold interfaceLine?
  rw [InterfaceLine.parsesFrom_iff, Option.bind_eq_bind, Option.bind_eq_some_iff]
  constructor
  · rintro ⟨⟨name', behind⟩, hcut, h⟩
    dsimp only at h
    split_ifs at h with hname
    rw [not_or, not_lt] at hname
    obtain ⟨⟨values', rest⟩, hvalues, h⟩ := Option.bind_eq_some_iff.mp h
    obtain ⟨rfl, rfl⟩ := InterfaceLine.mk.inj (Option.some.inj h)
    obtain ⟨hdrop, hcolon⟩ := strchr_eq_some_iff.mp hcut
    exact ⟨behind, rest, hdrop, hname.1, hcolon, hname.2, numeralsOf_eq_some_iff.mp hvalues⟩
  · rintro ⟨behind, rest, hdrop, hne, hcolon, hlength, hvalues⟩
    refine ⟨(name, behind), strchr_eq_some_iff.mpr ⟨hdrop, hcolon⟩, ?_⟩
    dsimp only
    rw [if_neg (by rw [not_or, not_lt]; exact ⟨hne, hlength⟩), numeralsOf_eq_some_iff.mpr hvalues]
    rfl

theorem scanLiteral_colon (behind : Bytes) :
    scanLiteral (ascii ":") (0x3a :: behind) = some behind := by
  simp [scanLiteral, ascii]

theorem scanLiteral_colon_eq_none {t : Bytes} (h : t.head? ≠ some 0x3a) :
    scanLiteral (ascii ":") t = none := by
  cases t with
  | nil => rfl
  | cons b t =>
    have hb : b ≠ 0x3a := fun hb => h (congrArg some hb)
    simp [scanLiteral, ascii, hb]

/-- **The `sscanf`** of the source finds the interface of a line, -/
theorem scanNetworkLine_of_parsesFrom (h : i.ParsesFrom text)
    (hrange : ∀ z ∈ i.values, z.natAbs < 2 ^ 64) :
    scanNetworkLine text = some (i.name, i.values.map UInt64.ofInt) := by
  obtain ⟨name, values⟩ := i
  obtain ⟨behind, rest, hdrop, hne, hcolon, hlength, hvalues⟩ := InterfaceLine.parsesFrom_iff.mp h
  dsimp only at hdrop hne hcolon hlength hvalues hrange ⊢
  have hname : ((name ++ 0x3a :: behind).takeWhile (· ≠ 0x3a)).take 31 = name := by
    rw [(takeWhile_dropWhile_ne hcolon behind).1, List.take_of_length_le hlength]
  unfold scanNetworkLine scanSpace
  simp only [hdrop, hname, if_neg hne, List.drop_left]
  rw [scanLiteral_colon, Option.bind_eq_bind, Option.bind_some,
    scanUnsigneds_of_numerals hvalues hrange]
  rfl

/-- and nothing in any other line. -/
theorem scanNetworkLine_eq_none (h : interfaceLine? text = none) : scanNetworkLine text = none := by
  unfold interfaceLine? at h
  unfold scanNetworkLine scanSpace
  dsimp only
  cases hcut : strchr 0x3a (text.dropWhile isspace) with
  | none =>
    -- no colon: the name is all of the line, or as much of it as fits
    have hcolon : 0x3a ∉ text.dropWhile isspace := fun hmem => by
      rw [strchr, if_pos hmem] at hcut
      cases hcut
    split_ifs
    · rfl
    · rw [scanLiteral_colon_eq_none]
      · rfl
      · exact fun hhead => hcolon (List.mem_of_mem_drop (List.mem_of_head? hhead))
  | some cut =>
    obtain ⟨name, behind⟩ := cut
    obtain ⟨hdrop, hcolon⟩ := strchr_eq_some_iff.mp hcut
    have hname := (takeWhile_dropWhile_ne hcolon behind).1
    rw [hcut, Option.bind_eq_bind, Option.bind_some] at h
    rw [hdrop, hname]
    split_ifs with htake
    · rfl
    · rcases Nat.lt_or_ge 31 name.length with hlong | hshort
      · -- the name is cut, and what is behind it is no colon
        rw [scanLiteral_colon_eq_none]
        · rfl
        · rw [List.length_take_of_le hlong.le, List.drop_append_of_le_length hlong.le,
            List.head?_append_of_ne_nil _ (by simpa using hlong)]
          exact fun hhead => hcolon (List.mem_of_mem_drop (List.mem_of_head? hhead))
      · rw [List.take_of_length_le hshort] at htake ⊢
        dsimp only at h
        rw [if_neg (by rw [not_or, not_lt]; exact ⟨htake, hshort⟩)] at h
        have hvalues : numeralsOf 16 behind = none := by
          cases hvalues : numeralsOf 16 behind with
          | none => rfl
          | some values =>
            rw [hvalues] at h
            cases h
        rw [List.drop_left, scanLiteral_colon, Option.bind_eq_bind, Option.bind_some,
          scanUnsigneds_eq_none hvalues]
        rfl

/-- The newline at the end of a line makes no difference. -/
theorem parsesFrom_append_newline : i.ParsesFrom (text ++ [newline]) ↔ i.ParsesFrom text := by
  constructor
  · rintro ⟨blanks, behind, rest, htext, hblank, hhead, hne, hcolon, hlength, hvalues⟩
    rcases List.eq_nil_or_concat behind with rfl | ⟨behind', c, rfl⟩
    · have hlast : text ++ [newline] = (blanks ++ i.name) ++ [0x3a] := by simp [htext]
      obtain ⟨-, hc⟩ := List.append_inj' hlast rfl
      exact absurd (List.singleton_inj.mp hc) (by decide)
    · have hlast : text ++ [newline] = (blanks ++ (i.name ++ 0x3a :: behind')) ++ [c] := by
        simp [htext]
      obtain ⟨htext', hc⟩ := List.append_inj' hlast rfl
      rw [List.concat_eq_append, ← List.singleton_inj.mp hc] at hvalues
      obtain ⟨rest', -, hvalues'⟩ := hvalues.of_append_blank rfl
      exact ⟨blanks, behind', rest', htext', hblank, hhead, hne, hcolon, hlength, hvalues'⟩
  · rintro ⟨blanks, behind, rest, rfl, hblank, hhead, hne, hcolon, hlength, hvalues⟩
    exact ⟨blanks, behind ++ [newline], rest ++ [newline], by simp, hblank, hhead, hne, hcolon,
      hlength, hvalues.append_blank rfl⟩

theorem interfaceLine?_append_newline (text : Bytes) :
    interfaceLine? (text ++ [newline]) = interfaceLine? text :=
  Option.ext fun _ => by
    rw [interfaceLine?_eq_some_iff, interfaceLine?_eq_some_iff, parsesFrom_append_newline]

/-- A line shows the same as its text. -/
theorem interfaceLine?_cstr_lineText {line : Bytes}
    (h : line = lineText line ∨ line = lineText line ++ [newline]) :
    interfaceLine? (cstr line) = interfaceLine? (cstr (lineText line)) := by
  obtain h | h := h
  · rw [← h]
  · by_cases h0 : 0 ∈ lineText line
    · have hcstr : cstr line = cstr (lineText line) := by
        conv_lhs => rw [h]
        exact cstr_append_of_mem h0 _
      rw [hcstr]
    · have hline : 0 ∉ line := by
        rw [h, List.mem_append, not_or]
        exact ⟨h0, by decide⟩
      rw [cstr_eq_self_iff.mpr hline, cstr_eq_self_iff.mpr h0]
      conv_lhs => rw [h]
      exact interfaceLine?_append_newline _

/-! ### The file -/

/-- The interfaces that some lines show. -/
def interfacesIn (lines : List Bytes) : List InterfaceLine :=
  lines.filterMap fun line => interfaceLine? (cstr line)

theorem interfacesIn_cons (line : Bytes) (lines : List Bytes) : interfacesIn (line :: lines) =
    match interfaceLine? (cstr line) with
    | none => interfacesIn lines
    | some i => i :: interfacesIn lines := by
  unfold interfacesIn
  rw [List.filterMap_cons]
  split <;> rename_i h <;> rw [h]

/-- A text of `/proc/net/dev`. -/
structure NetDev where
  /-- The bytes of the text. -/
  content : Bytes
  /-- The two headings. -/
  headings : Bytes × Bytes
  /-- The lines behind them, without their newlines. -/
  lines : List Bytes
  /-- These are its lines. -/
  lines_eq : (physicalLines content).map lineText = headings.1 :: headings.2 :: lines
  /-- They are shorter than 512 bytes. -/
  short : ∀ line ∈ physicalLines content, line.length < 512
  /-- The numbers are below 2⁶⁴. -/
  range : ∀ i ∈ interfacesIn lines, ∀ z ∈ i.values, z.natAbs < 2 ^ 64

namespace NetDev

variable (d : NetDev) (config : AppConfig)

/-- The interfaces in the text. -/
def interfaces : List InterfaceLine := interfacesIn d.lines

/-- The total of a counter, over the interfaces that the configuration selects. -/
def total (counter : InterfaceLine → ℤ) : ℤ :=
  totalOf InterfaceLine.name counter (networkInterfaceIsSelected config) d.interfaces

end NetDev

variable (config : AppConfig)

/-- What a line adds, if it shows an interface that is selected. -/
theorem addNetworkLine_eq {line : Bytes}
    (h : line = lineText line ∨ line = lineText line ++ [newline])
    (hrange : ∀ i, interfaceLine? (cstr (lineText line)) = some i →
      ∀ z ∈ i.values, z.natAbs < 2 ^ 64)
    (total : NetworkInfo) : addNetworkLine config total line =
      match interfaceLine? (cstr (lineText line)) with
      | none => total
      | some i =>
        if networkInterfaceIsSelected config i.name then
          ⟨total.rxBytes + .ofInt i.received, total.txBytes + .ofInt i.transmitted⟩
        else total := by
  have hline := interfaceLine?_cstr_lineText h
  unfold addNetworkLine
  cases hi : interfaceLine? (cstr (lineText line)) with
  | none => rw [scanNetworkLine_eq_none (hline.trans hi)]
  | some i =>
    have hparses := interfaceLine?_eq_some_iff.mp (hline.trans hi)
    rw [scanNetworkLine_of_parsesFrom hparses (hrange i hi)]
    have hget : ∀ k, (i.values.map UInt64.ofInt).getD k 0 = .ofInt (i.values.getD k 0) := by
      intro k
      rw [List.getD_eq_getElem?_getD, List.getD_eq_getElem?_getD, List.getElem?_map]
      cases i.values[k]? <;> rfl
    dsimp only
    rw [hget, hget]
    rfl

/-- The loop of the reader: it adds the totals of the selected interfaces, modulo 2⁶⁴. -/
theorem foldl_addNetworkLine (lines : List Bytes)
    (h : ∀ line ∈ lines, line = lineText line ∨ line = lineText line ++ [newline])
    (hrange : ∀ i ∈ interfacesIn (lines.map lineText), ∀ z ∈ i.values, z.natAbs < 2 ^ 64)
    (start : NetworkInfo) : lines.foldl (addNetworkLine config) start =
      ⟨start.rxBytes + .ofInt (totalOf InterfaceLine.name InterfaceLine.received
          (networkInterfaceIsSelected config) (interfacesIn (lines.map lineText))),
        start.txBytes + .ofInt (totalOf InterfaceLine.name InterfaceLine.transmitted
          (networkInterfaceIsSelected config) (interfacesIn (lines.map lineText)))⟩ := by
  induction lines generalizing start with
  | nil =>
    have hzero : UInt64.ofInt 0 = 0 := rfl
    change start = ⟨start.rxBytes + .ofInt 0, start.txBytes + .ofInt 0⟩
    rw [hzero, UInt64.add_zero, UInt64.add_zero]
  | cons line lines ih =>
    rw [List.forall_mem_cons] at h
    have hadd := addNetworkLine_eq config h.1
    rw [List.map_cons, interfacesIn_cons] at hrange ⊢
    cases hi : interfaceLine? (cstr (lineText line)) with
    | none =>
      rw [hi] at hrange
      rw [List.foldl_cons, hadd (fun i h => by rw [hi] at h; cases h), hi]
      exact ih h.2 hrange start
    | some i =>
      rw [hi, List.forall_mem_cons] at hrange
      rw [List.foldl_cons, hadd (fun j h => by rw [hi] at h; exact Option.some.inj h ▸ hrange.1), hi]
      dsimp only
      rw [ih h.2 hrange.2, totalOf_cons, totalOf_cons]
      split_ifs
      · simp only [UInt64.ofInt_add, UInt64.add_assoc]
      · simp only [zero_add]

namespace NetDev

variable (d : NetDev) (config : AppConfig)

/-- **The reader** stores the totals modulo 2⁶⁴. -/
theorem readNetworkInfoFiltered_eq
    (hcount : config.networkInterfaceCount.toNat ≤ maxNetworkInterfaces) :
    readNetworkInfoFiltered config (some d.content) =
      some ⟨.ofInt (d.total config InterfaceLine.received),
        .ofInt (d.total config InterfaceLine.transmitted)⟩ := by
  have hpieces : fgetsPieces 512 d.content = physicalLines d.content :=
    (fgetsPieces_eq_physicalLines_iff (by decide)).mpr d.short
  have hlines := d.lines_eq
  have htexts : ∀ line ∈ physicalLines d.content,
      line = lineText line ∨ line = lineText line ++ [newline] := fun line => eq_lineText_of_mem
  rw [← hpieces] at hlines htexts
  unfold readNetworkInfoFiltered
  rw [if_neg (not_lt.mpr hcount), Option.bind_eq_bind, Option.bind_some]
  match hread : fgetsPieces 512 d.content with
  | [] =>
    rw [hread] at hlines
    cases hlines
  | [_] =>
    rw [hread] at hlines
    cases (List.cons.inj hlines).2
  | first :: second :: lines =>
    rw [hread] at hlines htexts
    rw [List.map_cons, List.map_cons] at hlines
    obtain ⟨-, hlines⟩ := List.cons.inj hlines
    obtain ⟨-, hlines⟩ := List.cons.inj hlines
    have hfold := foldl_addNetworkLine config lines
      (fun line hline => htexts line (List.mem_cons_of_mem _ (List.mem_cons_of_mem _ hline)))
      (by rw [hlines]; exact d.range) ⟨0, 0⟩
    rw [hlines, UInt64.zero_add, UInt64.zero_add] at hfold
    exact congrArg some hfold

end NetDev

/-! ### Totals under different filters -/

/-- The filter has this name only. -/
def FiltersOnly (config : AppConfig) (name : Bytes) : Prop :=
  config.networkInterfaceCount = 1 ∧ (config.networkInterfaces ⟨0, by decide⟩).cstr = name

/-- The names in the filter. -/
def filterNames (config : AppConfig) : List Bytes :=
  usedNames config.networkInterfaceCount.toNat config.networkInterfaces

namespace NetDev

/-- The names of the interfaces in the text, each of them once, but not `lo`. -/
def namesButLo (d : NetDev) : List Bytes :=
  (d.interfaces.map InterfaceLine.name).dedup.filter fun name => name ≠ ascii "lo"

/-- The totals are, modulo 2⁶⁴, the sums of those that are read for each of the names alone. -/
def SumsOver (d : NetDev) (info : NetworkInfo) (names : List Bytes) : Prop :=
  ∀ alone : Bytes → AppConfig, (∀ name ∈ names, FiltersOnly (alone name) name) →
    ∃ totals : Bytes → NetworkInfo,
      (∀ name ∈ names, readNetworkInfoFiltered (alone name) (some d.content) = some (totals name)) ∧
      info.rxBytes.toNat = (names.map fun name => (totals name).rxBytes.toNat).sum % 2 ^ 64 ∧
      info.txBytes.toNat = (names.map fun name => (totals name).txBytes.toNat).sum % 2 ^ 64

/-- What holds of the totals that are read from a text. -/
structure NetworkTotals (d : NetDev) (config : AppConfig) (info : NetworkInfo) : Prop where
  /-- They are those of the selected interfaces: of field 1, -/
  received : (info.rxBytes.toNat : ℤ) = d.total config InterfaceLine.received % 2 ^ 64
  /-- and of field 9. -/
  transmitted : (info.txBytes.toNat : ℤ) = d.total config InterfaceLine.transmitted % 2 ^ 64
  /-- The order of the lines makes no difference. -/
  order : ∀ d' : NetDev, d'.lines.Perm d.lines →
    readNetworkInfoFiltered config (some d'.content) = some info
  /-- A filter of different names sums up what is read for each of them; -/
  filter : config.networkInterfaceCount ≠ 0 → (filterNames config).Nodup →
    d.SumsOver info (filterNames config)
  /-- an empty filter, what is read for all of them but `lo`. -/
  noFilter : config.networkInterfaceCount = 0 → d.SumsOver info d.namesButLo

end NetDev

theorem toNat_ofInt_uint64 (z : ℤ) : ((UInt64.ofInt z).toNat : ℤ) = z % 2 ^ 64 := by
  have hnonneg : 0 ≤ z % 2 ^ 64 := Int.emod_nonneg _ (by decide)
  have hlt : z % 2 ^ 64 < 2 ^ 64 := Int.emod_lt_of_pos _ (by decide)
  have hbound : (z % 2 ^ 64).toNat < 2 ^ 64 := by omega
  rw [UInt64.ofInt, UInt64.toNat_ofNat_of_lt' hbound, Int.toNat_of_nonneg hnonneg]

/-- Which interfaces are selected, where there is a filter. -/
theorem networkInterfaceIsSelected_iff {config : AppConfig} (h : config.networkInterfaceCount ≠ 0)
    (name : Bytes) : networkInterfaceIsSelected config name ↔ name ∈ filterNames config := by
  unfold networkInterfaceIsSelected filterNames usedNames
  rw [if_neg h, List.mem_take_iff_getElem]
  constructor
  · rintro ⟨i, hi, rfl⟩
    exact ⟨i, by simpa using hi, by rw [List.getElem_ofFn]⟩
  · rintro ⟨i, hi, rfl⟩
    rw [List.length_ofFn] at hi
    exact ⟨⟨i, hi.trans_le (min_le_right _ _)⟩, hi.trans_le (min_le_left _ _),
      by rw [List.getElem_ofFn]⟩

/-- A filter of one name selects this one. -/
theorem FiltersOnly.selected_iff {config : AppConfig} {name : Bytes} (h : FiltersOnly config name)
    (name' : Bytes) : networkInterfaceIsSelected config name' ↔ name' = name := by
  obtain ⟨hcount, rfl⟩ := h
  unfold networkInterfaceIsSelected
  rw [hcount, if_neg (by decide)]
  constructor
  · rintro ⟨i, hi, rfl⟩
    have hzero : i = ⟨0, by decide⟩ := Fin.ext (Nat.lt_one_iff.mp hi)
    rw [hzero]
  · rintro rfl
    exact ⟨⟨0, by decide⟩, by decide, rfl⟩

namespace NetDev

variable (d : NetDev) {config : AppConfig}

/-- The total over the names of a list is the sum of the totals for each of them. -/
theorem sumsOver {names : List Bytes} (hnames : names.Nodup)
    (h : ∀ i ∈ d.interfaces, networkInterfaceIsSelected config i.name ↔ i.name ∈ names) :
    d.SumsOver ⟨.ofInt (d.total config InterfaceLine.received),
      .ofInt (d.total config InterfaceLine.transmitted)⟩ names := by
  intro alone halone
  have htotal (counter : InterfaceLine → ℤ) :
      (UInt64.ofInt (d.total config counter)).toNat = (names.map fun name =>
        (UInt64.ofInt (d.total (alone name) counter)).toNat).sum % 2 ^ 64 := by
    have hsum : d.total config counter =
        (names.map fun name => d.total (alone name) counter).sum := by
      rw [total, totalOf_eq_sum hnames h]
      refine congrArg List.sum (List.map_congr_left fun name hname => ?_)
      exact totalOf_congr fun i _ => ((halone name hname).selected_iff i.name).symm
    zify
    rw [toNat_ofInt_uint64, hsum, List.sum_int_mod, List.map_map, List.map_map]
    refine congrArg (· % 2 ^ 64) (congrArg List.sum (List.map_congr_left fun name _ => ?_))
    exact (toNat_ofInt_uint64 _).symm
  refine ⟨fun name => ⟨.ofInt (d.total (alone name) InterfaceLine.received),
    .ofInt (d.total (alone name) InterfaceLine.transmitted)⟩, fun name hname => ?_,
    htotal _, htotal _⟩
  have hcount := (halone name hname).1
  exact d.readNetworkInfoFiltered_eq (alone name) (by rw [hcount]; decide)

end NetDev

/-- **The totals** of `read_network_info_filtered`. -/
theorem networkTotals_readNetworkInfoFiltered (d : NetDev) (config : AppConfig)
    (hcount : config.networkInterfaceCount.toNat ≤ maxNetworkInterfaces) :
    ∃ info, readNetworkInfoFiltered config (some d.content) = some info ∧
      d.NetworkTotals config info := by
  refine ⟨_, d.readNetworkInfoFiltered_eq config hcount, toNat_ofInt_uint64 _,
    toNat_ofInt_uint64 _, fun d' hperm => ?_, fun hfilter hnames => ?_, fun hnone => ?_⟩
  · have hinterfaces : d'.interfaces.Perm d.interfaces := hperm.filterMap _
    rw [d'.readNetworkInfoFiltered_eq config hcount, NetDev.total, NetDev.total,
      totalOf_perm hinterfaces, totalOf_perm hinterfaces]
    rfl
  · exact d.sumsOver hnames fun i _ => networkInterfaceIsSelected_iff hfilter i.name
  · refine d.sumsOver ((List.nodup_dedup _).filter _) fun i hi => ?_
    unfold networkInterfaceIsSelected NetDev.namesButLo
    rw [if_pos hnone, List.mem_filter, List.mem_dedup, decide_eq_true_eq]
    exact (and_iff_right (List.mem_map_of_mem hi)).symm

/-- A text with two interfaces. -/
def twoInterfaces : NetDev where
  content := ascii "Inter-|   Receive\n face |bytes\n  lo: 7 1 0 0 0 0 0 0 7 1 0 0 0 0 0 0\n" ++
    ascii "eth0: 100 1 0 0 0 0 0 0 20 1 0 0 0 0 0 0\n"
  headings := (ascii "Inter-|   Receive", ascii " face |bytes")
  lines := [ascii "  lo: 7 1 0 0 0 0 0 0 7 1 0 0 0 0 0 0",
    ascii "eth0: 100 1 0 0 0 0 0 0 20 1 0 0 0 0 0 0"]
  lines_eq := by decide +kernel
  short := by decide +kernel
  range := by decide +kernel

/-- Of the two, `lo` is not counted without a filter. -/
theorem networkTotals_twoInterfaces :
    ∃ info, readNetworkInfoFiltered .zero (some twoInterfaces.content) = some info ∧
      twoInterfaces.NetworkTotals .zero info :=
  networkTotals_readNetworkInfoFiltered twoInterfaces .zero (by decide)

example : twoInterfaces.total .zero InterfaceLine.received = 100 := by decide +kernel

end EdgeSentinel.Monitor
