import EdgeSentinel.Config.Settings

/-!
# Loading a configuration file

What `config_load` makes of a file, said without its loop: a file is a list of pieces,
each of which is blank, or an assignment, or wrong.

## What is proved

* `configLoad_result` — the file is accepted **exactly if** every piece is well formed;
  the record is then the fold of the assignments over the record before, and otherwise
  the record before.
* `setting_foldl` — what the fold is for a single key: **the last line that sets it
  wins**, and a key that no line sets stays as it was.
* `configLoad_eq_fold` — both, for the bytes of a file.
-/

namespace EdgeSentinel.Config

open CLib

/-! ### The pieces of a file -/

/-- A piece that says nothing: blanks, or a comment. -/
def Blank (piece : Bytes) : Prop := trim piece = [] ∨ (trim piece).head? = some 0x23

instance (piece : Bytes) : Decidable (Blank piece) := inferInstanceAs (Decidable (_ ∨ _))

/-- The key and the value of a piece: what is before its first `=` and what is behind it,
both trimmed, neither empty. -/
def assignment? (piece : Bytes) : Option (Bytes × Bytes) := do
  let (key, value) ← strchr 0x3d (trim piece)
  if trim key = [] ∨ trim value = [] then none else some (trim key, trim value)

/-- `config_set_value` accepts the value for the key, whatever the record. -/
def Accepted (key value : Bytes) : Prop := ∀ config, (configSetValue config key value).1 = .ok

/-- A piece that is no error: it is blank, or an assignment that is accepted. -/
def WellFormed (piece : Bytes) : Prop :=
  Blank piece ∨ ∃ key value, assignment? piece = some (key, value) ∧ Accepted key value

/-- The assignments of a file, in order. -/
def assignments (pieces : List Bytes) : List (Bytes × Bytes) :=
  (pieces.filter fun piece => ¬ Blank piece).filterMap assignment?

/-- One assignment to the record. -/
def applyAssignment (config : AppConfig) (a : Bytes × Bytes) : AppConfig :=
  (configSetValue config a.1 a.2).2

/-! ### The loop -/

variable {config : AppConfig} {piece : Bytes}

/-- There are no NULs in the key and the value of a piece that has none. -/
theorem zero_not_mem_assignment {key value : Bytes} (h0 : 0 ∉ piece)
    (h : assignment? piece = some (key, value)) : 0 ∉ key ∧ 0 ∉ value := by
  unfold assignment? strchr at h
  split_ifs at h with hmem
  · simp only [Option.bind_eq_bind, Option.bind_some] at h
    split_ifs at h
    obtain ⟨rfl, rfl⟩ := Prod.mk.inj (Option.some.inj h)
    have ht := zero_not_mem_trim h0
    refine ⟨zero_not_mem_trim fun hm => ht ?_, zero_not_mem_trim fun hm => ht ?_⟩
    · exact (List.takeWhile_prefix _).subset hm
    · exact (List.dropWhile_suffix _).subset (List.mem_of_mem_tail hm)
  · simp at h

/-- Whether a value is accepted can be asked of any record. -/
theorem accepted_iff (config : AppConfig) (key : Bytes) {value : Bytes} (h0 : 0 ∉ value) :
    Accepted key value ↔ (configSetValue config key value).1 = .ok := by
  unfold Accepted
  simp only [configSetValue_ok_iff h0]
  exact ⟨fun h => h config, fun h _ => h⟩

/-- One round of the loop: a blank piece changes nothing, an accepted assignment is made,
and anything else is an error. -/
theorem configLoadLine_eq (h0 : 0 ∉ piece) (loaded : AppConfig × Bool) :
    (WellFormed piece → configLoadLine piece loaded =
      ((assignments [piece]).foldl applyAssignment loaded.1, loaded.2)) ∧
    (¬ WellFormed piece → (configLoadLine piece loaded).2 = true) := by
  obtain ⟨config, hasError⟩ := loaded
  unfold configLoadLine
  rw [cstr_eq_self_iff.mpr h0]
  dsimp only
  by_cases hblank : Blank piece
  · rw [if_pos (show trim piece = [] ∨ (trim piece).head? = some 0x23 from hblank)]
    refine ⟨fun _ => ?_, fun hw => absurd (.inl hblank) hw⟩
    simp [assignments, hblank]
  · rw [if_neg (show ¬ (trim piece = [] ∨ (trim piece).head? = some 0x23) from hblank)]
    cases hs : strchr 0x3d (trim piece) with
    | none =>
      have hnone : assignment? piece = none := by rw [assignment?, hs]; rfl
      refine ⟨fun hw => ?_, fun _ => rfl⟩
      obtain hb | ⟨key, value, ha, -⟩ := hw
      · exact absurd hb hblank
      · rw [hnone] at ha
        cases ha
    | some kv =>
      obtain ⟨key, value⟩ := kv
      dsimp only
      by_cases hempty : trim key = [] ∨ trim value = []
      · have hnone : assignment? piece = none := by
          rw [assignment?, hs]
          exact if_pos hempty
        rw [if_pos hempty]
        refine ⟨fun hw => ?_, fun _ => rfl⟩
        obtain hb | ⟨key, value, ha, -⟩ := hw
        · exact absurd hb hblank
        · rw [hnone] at ha
          cases ha
      · have hsome : assignment? piece = some (trim key, trim value) := by
          rw [assignment?, hs]
          exact if_neg hempty
        rw [if_neg hempty]
        have hacc := accepted_iff config (trim key)
          (zero_not_mem_assignment h0 hsome).2
        have hwell : WellFormed piece ↔ Accepted (trim key) (trim value) := by
          constructor
          · rintro (hb | ⟨k, v, hkv, h⟩)
            · exact absurd hb hblank
            · rw [hsome] at hkv
              obtain ⟨rfl, rfl⟩ := Prod.mk.inj (Option.some.inj hkv)
              exact h
          · exact fun h => .inr ⟨_, _, hsome, h⟩
        have hlist : assignments [piece] = [(trim key, trim value)] := by
          simp [assignments, hblank, hsome]
        rw [hwell, hlist, hacc, List.foldl_cons, List.foldl_nil, applyAssignment]
        generalize configSetValue config (trim key) (trim value) = r
        obtain ⟨status, config'⟩ := r
        cases status <;> simp

theorem assignments_append (pieces pieces' : List Bytes) :
    assignments (pieces ++ pieces') = assignments pieces ++ assignments pieces' := by
  rw [assignments, List.filter_append, List.filterMap_append]
  rfl

/-- **A loop over lines** that makes the assignments of good ones, and takes note of others. -/
theorem foldl_of_line {body : Bytes → AppConfig × Bool → AppConfig × Bool} {Good : Bytes → Prop}
    {lines : List Bytes}
    (hbody : ∀ line ∈ lines, ∀ loaded,
      (Good line → body line loaded =
        ((assignments [line]).foldl applyAssignment loaded.1, loaded.2)) ∧
      (¬ Good line → (body line loaded).2 = true))
    (loaded : AppConfig × Bool) :
    ((lines.foldl (fun l line => body line l) loaded).2 = false ↔
      loaded.2 = false ∧ ∀ line ∈ lines, Good line) ∧
    ((∀ line ∈ lines, Good line) →
      (lines.foldl (fun l line => body line l) loaded).1 =
        (assignments lines).foldl applyAssignment loaded.1) := by
  induction lines generalizing loaded with
  | nil => simp [assignments]
  | cons line lines ih =>
    obtain ⟨hgood, hbad⟩ := hbody line List.mem_cons_self loaded
    obtain ⟨ih₁, ih₂⟩ := ih (fun l hl => hbody l (List.mem_cons_of_mem _ hl)) (body line loaded)
    rw [List.foldl_cons, ih₁]
    by_cases hw : Good line
    · have hline := hgood hw
      refine ⟨by simp [hline, hw], fun hall => ?_⟩
      rw [ih₂ fun l hl => hall l (List.mem_cons_of_mem _ hl), hline, ← List.foldl_append,
        ← assignments_append, List.singleton_append]
    · refine ⟨by simp [hbad hw, hw], fun hall => absurd (hall line List.mem_cons_self) hw⟩

/-- The loop over the pieces. -/
theorem foldl_configLoadLine {pieces : List Bytes} (h0 : ∀ piece ∈ pieces, 0 ∉ piece)
    (loaded : AppConfig × Bool) :
    ((pieces.foldl (fun l piece => configLoadLine piece l) loaded).2 = false ↔
      loaded.2 = false ∧ ∀ piece ∈ pieces, WellFormed piece) ∧
    ((∀ piece ∈ pieces, WellFormed piece) →
      (pieces.foldl (fun l piece => configLoadLine piece l) loaded).1 =
        (assignments pieces).foldl applyAssignment loaded.1) :=
  foldl_of_line (fun piece hpiece => configLoadLine_eq (h0 piece hpiece)) loaded

/-- **What a file is worth**: it is accepted if and only if every piece is well formed.
Then the record is the fold of the assignments; otherwise it is what it was. -/
theorem configLoad_result (config : AppConfig) {file : ConfigFile}
    (hclose : file.closes = true)
    (h0 : ∀ piece ∈ file.pieces, 0 ∉ piece) :
    ((configLoad (some file) config).1 = true ↔ ∀ piece ∈ file.pieces, WellFormed piece) ∧
    ((configLoad (some file) config).1 = true → (configLoad (some file) config).2 =
      (assignments file.pieces).foldl applyAssignment config) ∧
    ((configLoad (some file) config).1 = false → (configLoad (some file) config).2 = config) := by
  obtain ⟨hiff, hfold⟩ := foldl_configLoadLine h0 (config, false)
  unfold configLoad
  simp only [hclose, not_true_eq_false, if_false]
  generalize file.pieces.foldl (fun l piece => configLoadLine piece l) (config, false) = r
    at hiff hfold ⊢
  obtain ⟨loaded, hasError⟩ := r
  cases hasError with
  | true =>
    have hnot : ¬ ∀ piece ∈ file.pieces, WellFormed piece := fun hall => by
      simpa using hiff.mpr ⟨rfl, hall⟩
    simpa using hnot
  | false =>
    have hall := (hiff.mp rfl).2
    simpa using ⟨hall, hfold hall⟩

/-! ### The fold, key by key -/

/-- What an assignment sets the key `k` to, if it sets it. `process_names` also sets
`process_name`, to its first name. -/
def writes (k : Key) (a : Bytes × Bytes) : Option Setting :=
  if a.1 = k.name then k.read a.2
  else if k = .processName ∧ a.1 = Key.processNames.name then
    match Key.processNames.read a.2 with
    | some (.names l) => some (.text (l.headD []))
    | _ => none
  else none

/-- What `process_names` is set to is a list of names. -/
theorem read_processNames {value : Bytes} {x : Setting} (h : Key.processNames.read value = some x) :
    ∃ l, x = .names l := by
  rw [Key.read, readNames] at h
  split_ifs at h
  exact ⟨_, (Option.some.inj h).symm⟩

/-- One accepted assignment, key by key. -/
theorem setting_applyAssignment {a : Bytes × Bytes} (h0 : 0 ∉ a.2) (hacc : Accepted a.1 a.2)
    (k : Key) : setting (applyAssignment config a) k = (writes k a).getD (setting config k) := by
  obtain ⟨key, value⟩ := a
  obtain ⟨j, rfl, hj⟩ := (configSetValue_ok_iff h0).mp (hacc config)
  obtain ⟨x, hx⟩ := Option.isSome_iff_exists.mp hj
  rw [applyAssignment, setting_configSetValue h0 hx, writes]
  by_cases hk : k = j
  · subst hk
    rw [if_pos rfl, hx]
    unfold assign
    split <;> simp
  · rw [if_neg fun he => hk (Key.name_injective he).symm]
    by_cases hp : k = .processName ∧ j = .processNames
    · obtain ⟨rfl, rfl⟩ := hp
      obtain ⟨l, rfl⟩ := read_processNames hx
      rw [if_pos ⟨rfl, rfl⟩, hx]
      simp [assign]
    · rw [if_neg fun he => hp ⟨he.1, Key.name_injective he.2⟩]
      unfold assign
      split
      · rename_i l
        have hne : k ≠ .processName := fun he => hp ⟨he, rfl⟩
        simp [hne, hk]
      · simp [hk]

/-- **The fold, key by key**: the last assignment that sets a key wins, and a key that none
sets stays as it was. -/
theorem setting_foldl {as : List (Bytes × Bytes)} (h0 : ∀ a ∈ as, 0 ∉ a.2)
    (hacc : ∀ a ∈ as, Accepted a.1 a.2) (k : Key) :
    setting (as.foldl applyAssignment config) k =
      ((as.filterMap (writes k)).getLast?).getD (setting config k) := by
  induction as generalizing config with
  | nil => rfl
  | cons a as ih =>
    rw [List.foldl_cons, ih (fun b hb => h0 b (List.mem_cons_of_mem _ hb))
        (fun b hb => hacc b (List.mem_cons_of_mem _ hb)),
      setting_applyAssignment (h0 a List.mem_cons_self) (hacc a List.mem_cons_self)]
    cases hw : writes k a with
    | none => rw [List.filterMap_cons_none hw, Option.getD_none]
    | some x =>
      rw [List.filterMap_cons_some hw, Option.getD_some, List.getLast?_cons, Option.getD_some]

/-- Every assignment of lines that are well formed is accepted. -/
theorem accepted_of_mem_assignments {pieces : List Bytes} (h0 : ∀ piece ∈ pieces, 0 ∉ piece)
    (h : ∀ piece ∈ pieces, WellFormed piece) :
    ∀ a ∈ assignments pieces, 0 ∉ a.2 ∧ Accepted a.1 a.2 := by
  intro a ha
  obtain ⟨piece, hp, hpa⟩ := List.mem_filterMap.mp ha
  obtain ⟨hp, hblank⟩ := List.mem_filter.mp hp
  refine ⟨(zero_not_mem_assignment (h0 piece hp) hpa).2, ?_⟩
  obtain hb | ⟨key, value, hkv, hacc⟩ := h piece hp
  · simp [hb] at hblank
  · rw [hpa] at hkv
    obtain rfl := Option.some.inj hkv
    exact hacc

/-! ### The bytes of a file -/

/-- The bytes of the pieces are those of the stream. -/
theorem mem_of_mem_fgetsFrom {size : ℕ} {content line piece : Bytes} {b : UInt8}
    (hp : piece ∈ fgetsFrom size content line) (hb : b ∈ piece) : b ∈ line ++ content := by
  induction content generalizing line with
  | nil =>
    unfold fgetsFrom at hp
    split_ifs at hp
    · simp at hp
    · rw [List.mem_singleton.mp hp] at hb
      simpa using hb
  | cons c content ih =>
    unfold fgetsFrom at hp
    split_ifs at hp
    · rcases List.mem_cons.mp hp with rfl | hp
      · rw [List.append_cons]
        exact List.mem_append_left _ hb
      · have := ih hp
        simp only [List.nil_append] at this
        simp [this]
    · have := ih hp
      simpa using this

theorem zero_not_mem_fgetsPieces (size : ℕ) {content : Bytes} (h0 : 0 ∉ content) :
    ∀ piece ∈ fgetsPieces size content, 0 ∉ piece := fun _ hp hb =>
  h0 (by simpa using mem_of_mem_fgetsFrom hp hb)

/-- A file that is there, can be read to its end, and closes. -/
def ConfigFile.good (content : Bytes) : ConfigFile := ⟨content, false, true⟩

/-- **A file is the fold of its lines**: it is accepted if and only if every piece that
`fgets` reads is blank, a comment, or an assignment that `config_set_value` accepts. Then
the record is the fold of the assignments over the record before: for each key, the last
line that sets it wins, and a key that no line sets stays as it was. (`process_names` also
sets `process_name`.) Otherwise nothing changes. -/
theorem configLoad_eq_fold (config : AppConfig) (content : Bytes) (h0 : 0 ∉ content) :
    ((configLoad (some (.good content)) config).1 = true ↔
      ∀ piece ∈ fgetsPieces lineSize content, WellFormed piece) ∧
    ((configLoad (some (.good content)) config).1 = true →
      (configLoad (some (.good content)) config).2 =
        (assignments (fgetsPieces lineSize content)).foldl applyAssignment config ∧
      ∀ k, setting (configLoad (some (.good content)) config).2 k =
        (((assignments (fgetsPieces lineSize content)).filterMap (writes k)).getLast?).getD
          (setting config k)) ∧
    ((configLoad (some (.good content)) config).1 = false →
      (configLoad (some (.good content)) config).2 = config) := by
  have hpieces := zero_not_mem_fgetsPieces lineSize h0
  obtain ⟨hiff, hfold, hkeep⟩ := configLoad_result config
    (show (ConfigFile.good content).closes = true from rfl)
    hpieces
  refine ⟨hiff, fun hload => ⟨hfold hload, fun k => ?_⟩, hkeep⟩
  rw [hfold hload]
  have hmem := accepted_of_mem_assignments hpieces (hiff.mp hload)
  exact setting_foldl (fun a ha => (hmem a ha).1) (fun a ha => (hmem a ha).2) k

/-- A record of zeros. -/
def AppConfig.zero : AppConfig where
  monitorInterval := 0
  processPid := 0
  processName := .zero _
  processNames := fun _ => .zero _
  processNameCount := 0
  networkInterfaces := fun _ => .zero _
  networkInterfaceCount := 0
  notificationEnabled := 0
  notificationCommand := .zero _
  cpuWarningThreshold := .finite 0
  cpuCriticalThreshold := .finite 0
  processCpuWarningThreshold := .finite 0
  processCpuCriticalThreshold := .finite 0
  processMemoryWarningThresholdMib := .finite 0
  processMemoryCriticalThresholdMib := .finite 0
  memoryWarningThreshold := .finite 0
  memoryCriticalThreshold := .finite 0
  diskWarningThreshold := .finite 0
  diskCriticalThreshold := .finite 0
  logFile := .zero _
  logMaxSize := 0

/-- A file that sets the same key twice. -/
theorem configLoad_eq_fold_twice :
    (configLoad (some (.good (ascii "log_max_size = 5\nlog_max_size = 7\n"))) .zero).1 = true ∧
    setting (configLoad (some (.good (ascii "log_max_size = 5\nlog_max_size = 7\n"))) .zero).2
      .logMaxSize = .number 7 := by
  have hload : (configLoad (some (.good (ascii "log_max_size = 5\nlog_max_size = 7\n")))
      .zero).1 = true := by decide
  refine ⟨hload, ?_⟩
  rw [((configLoad_eq_fold .zero (ascii "log_max_size = 5\nlog_max_size = 7\n")
    (by decide)).2.1 hload).2 .logMaxSize]
  decide

/-- A line may set a key it does not name: `process_names` sets `process_name`. -/
theorem processName_not_kept : ¬ ∀ (config : AppConfig) (content : Bytes), 0 ∉ content →
    (configLoad (some (.good content)) config).1 = true → ∀ k : Key,
    (∀ a ∈ assignments (fgetsPieces lineSize content), a.1 ≠ k.name) →
    setting (configLoad (some (.good content)) config).2 k = setting config k := by
  intro h
  have := h .zero (ascii "process_names=a\n") (by decide) (by decide) .processName (by decide)
  revert this
  decide

end EdgeSentinel.Config
