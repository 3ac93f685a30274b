import EdgeSentinel.Config.Load
import Mathlib.Data.List.GetD

/-!
# Lists of names

`process_names` and `network_interfaces` are lists of names with commas between them.
`config_set_value` looks for commas that make a name empty, cuts the list up with `strtok`, and
checks and copies name after name.

## The model

* `HoldsNames` — buffers that hold certain names, and nothing else: every byte behind a name is
  zero.
* `SetsProcessNames`, `SetsNetworkInterfaces` — what an accepted list makes of the record.

## What is proved

* `parseNames_holds` — the loop over the names stores them, one buffer for each, and leaves the
  other buffers zero.
* `setProcessNames_iff` — **`process_names`** accepts exactly the lists of one to eight different
  names that are not empty, have no comma, and fit their buffers.
* `setNetworkInterfaces_iff` — **`network_interfaces`** accepts a text exactly if it fits its
  buffer, and its pieces between commas, trimmed, are such names.
-/

namespace EdgeSentinel.Config

open CLib

variable {size : ℕ} {names done : List Bytes} {value : Bytes} {config : AppConfig}

/-! ### Buffers of names -/

/-- The buffers hold these names, one in each, and are zero otherwise. -/
def HoldsNames (buffers : Fin 8 → CharArray size) (names : List Bytes) : Prop :=
  ∀ i : Fin 8, (buffers i).bytes =
    names.getD i [] ++ List.replicate (size - (names.getD i []).length) 0

theorem holdsNames_zero (size : ℕ) : HoldsNames (fun _ => CharArray.zero size) [] := by
  intro i
  simp [CharArray.zero]

/-- A name is copied into a buffer that is zero. -/
theorem bytes_store_of_zero {a : CharArray size} (ha : a.bytes = List.replicate size 0) {s : Bytes}
    (hs : s.length < size) :
    (a.store s).bytes = s ++ List.replicate (size - s.length) 0 := by
  obtain ⟨n, hn⟩ := Nat.exists_eq_add_of_lt hs
  have hrest : size - s.length = n + 1 := by omega
  rw [CharArray.bytes_store a hs, ha, List.drop_replicate, hrest, List.replicate_succ]
  congr 3
  omega

/-- The next name goes into the next buffer. -/
theorem HoldsNames.store {buffers : Fin 8 → CharArray size} (h : HoldsNames buffers done)
    (hcount : done.length < 8) {name : Bytes} (hname : name.length < size) :
    HoldsNames (Function.update buffers ⟨done.length, hcount⟩
      ((buffers ⟨done.length, hcount⟩).store name)) (done ++ [name]) := by
  intro i
  by_cases hi : i = ⟨done.length, hcount⟩
  · subst hi
    have hzero := h ⟨done.length, hcount⟩
    simp only [List.getD_eq_default _ _ le_rfl, List.nil_append, List.length_nil,
      Nat.sub_zero] at hzero
    rw [Function.update_self, bytes_store_of_zero hzero hname]
    simp
  · have hne : (i : ℕ) ≠ done.length := by
      intro he
      exact hi (Fin.ext he)
    have hget : (done ++ [name]).getD i [] = done.getD i [] := by
      rcases Nat.lt_or_gt_of_ne hne with hlt | hgt
      · rw [List.getD_append _ _ _ _ hlt]
      · rw [List.getD_eq_default _ _ (by simp; omega), List.getD_eq_default _ _ hgt.le]
    rw [Function.update_of_ne hi, hget]
    exact h i

/-- **The loop over the names** stores them in order, and nothing else. -/
theorem parseNames_holds {prepare : Bytes → Bytes} {tokens : List Bytes} {count : ℕ}
    {parsed parsed' : Fin 8 → CharArray size} (h : HoldsNames parsed done)
    (hp : parseNames prepare tokens done.length parsed = some (count, parsed')) :
    count = (done ++ tokens.map prepare).length ∧
      HoldsNames parsed' (done ++ tokens.map prepare) := by
  induction tokens generalizing done parsed with
  | nil =>
    obtain ⟨rfl, rfl⟩ := Prod.mk.inj (Option.some.inj hp)
    rw [List.map_nil, List.append_nil]
    exact ⟨rfl, h⟩
  | cons token tokens ih =>
    unfold parseNames at hp
    dsimp only at hp
    split_ifs at hp with hcount hlength hdup
    rw [not_or, not_le] at hlength
    have hnext := h.store hcount hlength.2
    have hlen : done.length + 1 = (done ++ [prepare token]).length := by simp
    rw [hlen] at hp
    rw [List.map_cons, List.append_cons]
    exact ih hnext hp

/-- The string in a buffer is its name. -/
theorem HoldsNames.cstr_eq {buffers : Fin 8 → CharArray size} (h : HoldsNames buffers names)
    (hnames : ∀ name ∈ names, 0 ∉ name) (i : Fin 8) : (buffers i).cstr = names.getD i [] := by
  have h0 : 0 ∉ names.getD i [] := by
    rw [List.getD_eq_getElem?_getD]
    cases hget : names[(i : ℕ)]? with
    | none => exact List.not_mem_nil
    | some name => exact hnames name (List.mem_of_getElem? hget)
  rw [CharArray.cstr, h i]
  cases size - (names.getD (i : ℕ) []).length with
  | zero => rw [List.replicate_zero, List.append_nil, cstr_eq_self_iff.mpr h0]
  | succ n => rw [List.replicate_succ, cstr_append_zero h0]

/-- A name that fits its buffer is terminated. -/
theorem HoldsNames.terminated {buffers : Fin 8 → CharArray size} (h : HoldsNames buffers names)
    (hsize : 0 < size) (hnames : ∀ name ∈ names, name.length < size) (i : Fin 8) :
    (buffers i).Terminated := by
  have hlt : (names.getD i []).length < size := by
    rw [List.getD_eq_getElem?_getD]
    cases hget : names[(i : ℕ)]? with
    | none => exact hsize
    | some name => exact hnames name (List.mem_of_getElem? hget)
  rw [CharArray.Terminated, h i, List.mem_append, List.mem_replicate]
  exact .inr ⟨by omega, rfl⟩

/-! ### Accepted lists -/

/-- The pieces of a text between its commas. -/
def pieces (value : Bytes) : List Bytes := value.splitOn comma

/-- The commas of a text that is not empty leave a piece empty. -/
theorem hasEmptyName_iff (hne : value ≠ []) : HasEmptyName value ↔ [] ∈ pieces value := by
  rw [pieces, nil_mem_splitOn_iff, or_iff_right hne]
  exact Iff.rfl

variable {prepare : Bytes → Bytes}

/-- A list without empty names has a name for each piece. -/
theorem map_strtok_eq (hempty : ¬ HasEmptyName value) (hne : value ≠ []) :
    (strtok comma value).map prepare = (pieces value).map prepare := by
  rw [hasEmptyName_iff hne] at hempty
  rw [strtok_eq_splitOn hempty, pieces]

/-- **A list of names is read** if it fits its buffer, and its pieces, made ready, fit theirs. -/
theorem readNames_isSome_iff (hprepare : prepare [] = []) :
    (readNames size prepare value).isSome ↔
      value.length < 8 * size ∧ NamesFit size ((pieces value).map prepare) := by
  have hnil : [] ∈ pieces value → ¬ NamesFit size ((pieces value).map prepare) := by
    intro hmem hfit
    exact (hfit.2.1 _ (List.mem_map_of_mem hmem)).1 hprepare
  by_cases hne : value = []
  · subst hne
    have hfit : ¬ NamesFit size ((pieces []).map prepare) := hnil List.mem_cons_self
    simp [readNames, hfit]
  · by_cases hempty : HasEmptyName value
    · have hfit := hnil ((hasEmptyName_iff hne).mp hempty)
      simp [readNames, hempty, hfit]
    · have hpieces : (pieces value).map prepare ≠ [] := by
        simp [pieces]
      unfold readNames
      rw [map_strtok_eq hempty hne]
      simp [hempty, hpieces]

/-- An accepted list: its names are copied, and the record is set. -/
theorem setNames_ok {set : UInt32 → (Fin 8 → CharArray size) → AppConfig}
    (h : (setNames size config value prepare set).1 = .ok) :
    ∃ buffers, HoldsNames buffers ((pieces value).map prepare) ∧
      (setNames size config value prepare set).2 =
        set (.ofNat ((pieces value).map prepare).length) buffers := by
  unfold setNames at h ⊢
  by_cases hempty : HasEmptyName value
  · rw [if_pos hempty] at h
    cases h
  by_cases hlong : 8 * size ≤ value.length
  · rw [if_neg hempty, if_pos hlong] at h
    cases h
  rw [if_neg hempty, if_neg hlong] at h ⊢
  cases hp : parseNames prepare (strtok comma value) 0 fun _ => CharArray.zero size with
  | none =>
    rw [hp] at h
    cases h
  | some r =>
    obtain ⟨count, buffers⟩ := r
    obtain ⟨hcount, hholds⟩ := parseNames_holds (holdsNames_zero size) hp
    rw [hp] at h
    by_cases hc : count = 0
    · simp only [hc, if_true] at h
      cases h
    · have hne : value ≠ [] := by
        rintro rfl
        exact hc hcount
      rw [List.nil_append, map_strtok_eq hempty hne] at hcount hholds
      refine ⟨buffers, hholds, ?_⟩
      simp only [hc, if_false]
      rw [hcount]

/-- Whether a key accepts a value. -/
theorem configSetValue_name_ok_iff (config : AppConfig) (h0 : 0 ∉ value) (k : Key) :
    (configSetValue config k.name value).1 = .ok ↔ (k.read value).isSome := by
  rw [configSetValue_ok_iff h0]
  constructor
  · rintro ⟨j, hj, hread⟩
    rwa [← Key.name_injective hj]
  · intro hread
    exact ⟨k, rfl, hread⟩

/-- A value that is not accepted leaves the record alone. -/
theorem configSetValue_name_invalid (h0 : 0 ∉ value) {k : Key}
    (h : (configSetValue config k.name value).1 ≠ .ok) :
    configSetValue config k.name value = (.invalid, config) := by
  have hread : k.read value = none := by
    rwa [ne_eq, configSetValue_name_ok_iff config h0, Option.not_isSome_iff_eq_none] at h
  have hrefines := refines_configSetValue config h0 k
  unfold Refines at hrefines
  rwa [hread] at hrefines

/-! ### `process_names` -/

/-- One to eight different names that are not empty, fit their buffers, and have no comma. -/
structure ProcessNameList (names : List Bytes) : Prop where
  /-- There is one. -/
  ne_nil : names ≠ []
  /-- There are no more than eight, none is empty or too long, and no two are the same. -/
  fit : NamesFit processNameLength names
  /-- They have no comma. -/
  comma_not_mem : ∀ name ∈ names, comma ∉ name

/-- The record is set to these process names, and nothing else of it changes. -/
structure SetsProcessNames (names : List Bytes) (config config' : AppConfig) : Prop where
  /-- The buffers hold the names, and are zero otherwise. -/
  holds : HoldsNames config'.processNames names
  /-- All of them are in use. -/
  count : config'.processNameCount.toNat = names.length
  /-- The older `process_name` is the first one. -/
  first : config'.processName.cstr = names.headD []
  /-- Every buffer is terminated. -/
  terminated : (∀ i, (config'.processNames i).Terminated) ∧ config'.processName.Terminated
  /-- The other fields stay. -/
  frame : config' = { config with
    processNames := config'.processNames
    processNameCount := config'.processNameCount
    processName := config'.processName }

/-- A list with commas between its names is shorter than the buffers for them. -/
theorem length_intercalate_lt (hne : names ≠ []) (h : ∀ name ∈ names, name.length < size) :
    ([comma].intercalate names).length < names.length * size := by
  induction names with
  | nil => exact absurd rfl hne
  | cons name names ih =>
    have hname := h name List.mem_cons_self
    cases names with
    | nil => simpa using hname
    | cons name' names =>
      have hrest := ih (by simp) fun n hn => h n (List.mem_cons_of_mem _ hn)
      rw [List.intercalate_cons_cons, List.length_cons, Nat.succ_mul]
      simp only [List.length_append, List.length_singleton]
      omega

/-- The pieces of a list of names are its names. -/
theorem pieces_intercalate (h : ProcessNameList names) :
    pieces ([comma].intercalate names) = names :=
  List.splitOn_intercalate comma h.comma_not_mem h.ne_nil

/-- A text is read as process names if its pieces are such names. -/
theorem read_processNames_isSome_iff :
    (Key.processNames.read value).isSome ↔ ProcessNameList (pieces value) := by
  rw [Key.read, readNames_isSome_iff rfl, List.map_id]
  constructor
  · rintro ⟨-, hfit⟩
    refine ⟨List.splitOn_ne_nil comma value, hfit, fun name hname => ?_⟩
    exact sep_not_mem_of_mem_splitOn hname
  · intro hnames
    refine ⟨?_, hnames.fit⟩
    have hvalue : [comma].intercalate (pieces value) = value := List.intercalate_splitOn comma
    calc value.length = ([comma].intercalate (pieces value)).length := by rw [hvalue]
      _ < (pieces value).length * processNameLength :=
        length_intercalate_lt hnames.ne_nil fun name hname => (hnames.fit.2.1 name hname).2
      _ ≤ 8 * processNameLength := Nat.mul_le_mul_right _ hnames.fit.1

theorem zero_not_mem_pieces (h0 : 0 ∉ value) : ∀ piece ∈ pieces value, 0 ∉ piece := by
  intro piece hpiece hmem
  exact h0 (mem_of_mem_splitOn hpiece hmem)

/-- An accepted list of process names sets its names. -/
theorem setsProcessNames (h0 : 0 ∉ value)
    (hset : (configSetValue config Key.processNames.name value).1 = .ok) :
    ProcessNameList (pieces value) ∧
      SetsProcessNames (pieces value) config
        (configSetValue config Key.processNames.name value).2 := by
  have hnames := read_processNames_isSome_iff.mp
    ((configSetValue_name_ok_iff config h0 .processNames).mp hset)
  refine ⟨hnames, ?_⟩
  rw [configSetValue_name] at hset ⊢
  unfold Key.branch setProcessNames at hset ⊢
  by_cases hlength : value.length = 0
  · rw [if_pos hlength] at hset
    cases hset
  rw [if_neg hlength] at hset ⊢
  obtain ⟨buffers, hholds, hresult⟩ := setNames_ok hset
  rw [List.map_id] at hholds hresult
  rw [hresult]
  have hterminated := hholds.terminated (by decide) fun name hname => (hnames.fit.2.1 name hname).2
  have hlt := CharArray.length_cstr_lt (hterminated 0)
  refine ⟨hholds, ?_, ?_, ⟨hterminated, CharArray.terminated_store _ hlt⟩, rfl⟩
  · have hcount := hnames.fit.1
    rw [UInt32.toNat_ofNat', Nat.mod_eq_of_lt (by omega)]
  · rw [CharArray.cstr_store _ (CharArray.zero_not_mem_cstr _) hlt,
      hholds.cstr_eq (zero_not_mem_pieces h0) 0]
    cases pieces value <;> rfl

/-- **`process_names`**: a text is accepted if and only if it is a list, with commas between
them, of one to eight different names that are not empty, have no comma, and fit their buffers.
Then exactly these names are set, and otherwise nothing is. -/
theorem setProcessNames_iff (config : AppConfig) (h0 : 0 ∉ value) :
    ((configSetValue config (ascii "process_names") value).1 = .ok ↔
      ∃ names, ProcessNameList names ∧ value = [comma].intercalate names) ∧
    (∀ names, ProcessNameList names → value = [comma].intercalate names →
      SetsProcessNames names config (configSetValue config (ascii "process_names") value).2) ∧
    ((configSetValue config (ascii "process_names") value).1 ≠ .ok →
      configSetValue config (ascii "process_names") value = (.invalid, config)) := by
  have hok := configSetValue_name_ok_iff config h0 .processNames
  rw [read_processNames_isSome_iff] at hok
  refine ⟨?_, ?_, configSetValue_name_invalid h0 (k := .processNames)⟩
  · refine hok.trans ⟨fun hnames => ?_, ?_⟩
    · exact ⟨pieces value, hnames, (List.intercalate_splitOn comma).symm⟩
    · rintro ⟨names, hnames, rfl⟩
      rwa [pieces_intercalate hnames]
  · rintro names hnames rfl
    rw [pieces_intercalate hnames] at hok
    have hsets := (setsProcessNames h0 (hok.mpr hnames)).2
    rwa [pieces_intercalate hnames] at hsets

/-- A list of two names. -/
theorem setProcessNames_iff_two :
    (configSetValue .zero (ascii "process_names") (ascii "a,b")).1 = .ok ∧
      SetsProcessNames [ascii "a", ascii "b"] .zero
        (configSetValue .zero (ascii "process_names") (ascii "a,b")).2 := by
  have hnames : ProcessNameList [ascii "a", ascii "b"] := ⟨by decide, by decide, by decide⟩
  obtain ⟨hok, hsets, -⟩ := setProcessNames_iff .zero (by decide : 0 ∉ ascii "a,b")
  exact ⟨hok.mpr ⟨_, hnames, by decide⟩, hsets _ hnames (by decide)⟩

/-! ### `network_interfaces` -/

/-- The record is set to these network interfaces, and nothing else of it changes. -/
structure SetsNetworkInterfaces (names : List Bytes) (config config' : AppConfig) : Prop where
  /-- The buffers hold the names, and are zero otherwise. -/
  holds : HoldsNames config'.networkInterfaces names
  /-- All of them are in use. -/
  count : config'.networkInterfaceCount.toNat = names.length
  /-- Every buffer is terminated. -/
  terminated : ∀ i, (config'.networkInterfaces i).Terminated
  /-- The other fields stay. -/
  frame : config' = { config with
    networkInterfaces := config'.networkInterfaces
    networkInterfaceCount := config'.networkInterfaceCount }

/-- An accepted list of network interfaces sets its names. -/
theorem setsNetworkInterfaces (h0 : 0 ∉ value)
    (hset : (configSetValue config Key.networkInterfaces.name value).1 = .ok) :
    NamesFit networkInterfaceNameLength ((pieces value).map trim) ∧
      SetsNetworkInterfaces ((pieces value).map trim) config
        (configSetValue config Key.networkInterfaces.name value).2 := by
  have hread := (configSetValue_name_ok_iff config h0 .networkInterfaces).mp hset
  rw [Key.read, readNames_isSome_iff rfl] at hread
  obtain ⟨-, hfit⟩ := hread
  refine ⟨hfit, ?_⟩
  rw [configSetValue_name] at hset ⊢
  unfold Key.branch at hset ⊢
  obtain ⟨buffers, hholds, hresult⟩ := setNames_ok hset
  rw [setNetworkInterfaces, hresult]
  refine ⟨hholds, ?_, ?_, rfl⟩
  · have hcount := hfit.1
    rw [UInt32.toNat_ofNat', Nat.mod_eq_of_lt (by omega)]
  · exact hholds.terminated (by decide) fun name hname => (hfit.2.1 name hname).2

/-- **`network_interfaces`**: a text is accepted if and only if it is shorter than the buffer it
is copied to, and its pieces between commas, trimmed, are no more than eight different names
that are not empty and fit their buffers. Then exactly these names are set, and otherwise nothing
is. -/
theorem setNetworkInterfaces_iff (config : AppConfig) (h0 : 0 ∉ value) :
    ((configSetValue config (ascii "network_interfaces") value).1 = .ok ↔
      value.length < 8 * networkInterfaceNameLength ∧
        NamesFit networkInterfaceNameLength ((pieces value).map trim)) ∧
    ((configSetValue config (ascii "network_interfaces") value).1 = .ok →
      SetsNetworkInterfaces ((pieces value).map trim) config
        (configSetValue config (ascii "network_interfaces") value).2) ∧
    ((configSetValue config (ascii "network_interfaces") value).1 ≠ .ok →
      configSetValue config (ascii "network_interfaces") value = (.invalid, config)) := by
  have hok := configSetValue_name_ok_iff config h0 .networkInterfaces
  rw [Key.read, readNames_isSome_iff rfl] at hok
  refine ⟨hok, ?_, configSetValue_name_invalid h0 (k := .networkInterfaces)⟩
  intro hset
  exact (setsNetworkInterfaces h0 hset).2

/-- A list of two interfaces, with a blank behind its comma. -/
theorem setNetworkInterfaces_iff_two :
    (configSetValue .zero (ascii "network_interfaces") (ascii "lo, eth0")).1 = .ok ∧
      SetsNetworkInterfaces [ascii "lo", ascii "eth0"] .zero
        (configSetValue .zero (ascii "network_interfaces") (ascii "lo, eth0")).2 := by
  obtain ⟨hok, hsets, -⟩ := setNetworkInterfaces_iff .zero (by decide : 0 ∉ ascii "lo, eth0")
  have haccepted := hok.mpr (by decide)
  have hpieces : (pieces (ascii "lo, eth0")).map trim = [ascii "lo", ascii "eth0"] := by decide
  rw [hpieces] at hsets
  exact ⟨haccepted, hsets haccepted⟩

end EdgeSentinel.Config
