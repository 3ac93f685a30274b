import EdgeSentinel.Config.Load

/-!
# Valid configurations

What `config_validate` promises, and the two things the rest of the program relies on that
it does not check: that `process_name` is terminated, and that it is set whenever
`process_names` is. Both hold of the defaults, and assignments keep them.

## What is proved

* `configValidate_defaults` — the defaults are valid, whatever was in the memory before.
* `Usable` — a valid configuration with a sound `process_name`. `Usable.*` are the facts
  that follow: bounds for the counts and the PID, and names that fit.
* `configLoad_induction` — what every assignment keeps, **loading a file keeps**, whatever
  is in the file; `usable_configLoad` — a file loaded over the defaults is usable once it
  is valid.
-/

namespace EdgeSentinel.Config

open CLib

variable {config : AppConfig}

@[simp] theorem reject_eq_none {bad : Prop} [Decidable bad] {problem : ConfigProblem} :
    reject bad problem = none ↔ ¬ bad := by
  unfold reject
  split_ifs with h <;> simp [h]

/-- `config_validate` returns 0 exactly if every check passes. -/
theorem configValidate_eq_none : configValidate config = none ↔
    config.monitorInterval ≠ 0 ∧ config.processPid.toNat ≤ intMax ∧
    config.processNameCount.toNat ≤ maxProcessNames ∧
    (∀ i, validateProcessName config i = none) ∧
    config.networkInterfaceCount.toNat ≤ maxNetworkInterfaces ∧
    (∀ i, validateNetworkInterface config i = none) ∧
    ¬ 1 < config.notificationEnabled ∧ config.notificationCommand.Terminated ∧
    ¬ (config.notificationEnabled = 1 ∧ config.notificationCommand.bytes.head? = some 0) ∧
    validateThresholdPair (ascii "CPU") config.cpuWarningThreshold
      config.cpuCriticalThreshold = none ∧
    validateProcessThresholdPair (ascii "process CPU") config.processCpuWarningThreshold
      config.processCpuCriticalThreshold = none ∧
    validateProcessThresholdPair (ascii "process memory") config.processMemoryWarningThresholdMib
      config.processMemoryCriticalThresholdMib = none ∧
    validateThresholdPair (ascii "memory") config.memoryWarningThreshold
      config.memoryCriticalThreshold = none ∧
    validateThresholdPair (ascii "disk") config.diskWarningThreshold
      config.diskCriticalThreshold = none ∧
    config.logFile.bytes.head? ≠ some 0 ∧ config.logMaxSize ≠ 0 := by
  simp only [configValidate, Option.orElse_eq_orElse, Option.orElse_eq_or, Option.or_eq_none_iff,
    reject_eq_none, List.findSome?_eq_none_iff, List.mem_finRange, forall_const, not_lt, ne_eq,
    not_not]

/-! ### The defaults -/

/-- **The defaults are valid**, whatever they are written over. -/
theorem configValidate_defaults (config : AppConfig) :
    configValidate (configSetDefaults config) = none := by
  have hcmd : (config.notificationCommand.store []).Terminated :=
    CharArray.terminated_store _ (by decide)
  have hlog : (config.logFile.store (ascii "logs/edgesentinel.log")).bytes.head? ≠ some 0 := by
    rw [CharArray.bytes_store _ (by decide)]
    show some 0x6c ≠ some 0
    decide
  refine configValidate_eq_none.mpr ⟨?_, ?_, Nat.zero_le _, fun i => if_neg (Nat.not_lt_zero _),
    Nat.zero_le _, fun i => if_neg (Nat.not_lt_zero _), ?_, hcmd, ?_, ?_, ?_, ?_, ?_, ?_, hlog, ?_⟩
  · exact (by decide : (1 : UInt32) ≠ 0)
  · exact (by decide : (0 : UInt32).toNat ≤ intMax)
  · exact (by decide : ¬ (1 : UInt32) < 0)
  · exact fun h => absurd h.1 (by decide : (0 : UInt32) ≠ 1)
  · exact (by decide +kernel : validateThresholdPair (ascii "CPU") (.finite 70) (.finite 90) = none)
  · exact (by decide +kernel :
      validateProcessThresholdPair (ascii "process CPU") (.finite 70) (.finite 90) = none)
  · exact (by decide +kernel :
      validateProcessThresholdPair (ascii "process memory") (.finite 100) (.finite 200) = none)
  · exact (by decide +kernel :
      validateThresholdPair (ascii "memory") (.finite 75) (.finite 90) = none)
  · exact (by decide +kernel :
      validateThresholdPair (ascii "disk") (.finite 80) (.finite 90) = none)
  · exact (by decide : (1048576 : UInt64) ≠ 0)

/-! ### What validity is good for -/

/-- `process_name` is terminated. -/
abbrev NameTerminated (config : AppConfig) : Prop := config.processName.Terminated

/-- `process_name` is set if `process_names` is. -/
def NameSet (config : AppConfig) : Prop :=
  config.processNameCount ≠ 0 → config.processName.cstr ≠ []

/-- A configuration the program can use: it is valid, and `process_name` is sound. -/
structure Usable (config : AppConfig) : Prop where
  /-- `config_validate` accepts it. -/
  valid : configValidate config = none
  /-- `process_name` is terminated. -/
  terminated : NameTerminated config
  /-- `process_name` is set if `process_names` is. -/
  named : NameSet config

/-- The first byte of a buffer that holds the empty string is its NUL. -/
theorem head?_eq_zero_of_cstr_eq_nil {n : ℕ} {a : CharArray n} (h : a.cstr = []) (hn : 0 < n) :
    a.bytes.head? = some 0 := by
  have hsize := a.size_eq
  rw [CharArray.cstr, cstr] at h
  cases hb : a.bytes with
  | nil =>
    rw [hb, List.length_nil] at hsize
    omega
  | cons b bytes =>
    rw [hb, List.takeWhile_cons] at h
    split_ifs at h with h0
    rw [List.head?_cons, show b = 0 by simpa using h0]

/-- A terminated buffer begins with a NUL exactly if its string is empty. -/
theorem head?_eq_zero_iff {n : ℕ} {a : CharArray n} (h : a.Terminated) :
    a.bytes.head? = some 0 ↔ a.cstr = [] := by
  unfold CharArray.cstr CLib.cstr
  unfold CharArray.Terminated at h
  cases hb : a.bytes with
  | nil => simp [hb] at h
  | cons b bs => simp [List.takeWhile_cons]

namespace Usable

theorem processPid_le (h : Usable config) : config.processPid.toNat ≤ intMax :=
  (configValidate_eq_none.mp h.valid).2.1

theorem processNameCount_le (h : Usable config) :
    config.processNameCount.toNat ≤ maxProcessNames :=
  (configValidate_eq_none.mp h.valid).2.2.1

theorem networkInterfaceCount_le (h : Usable config) :
    config.networkInterfaceCount.toNat ≤ maxNetworkInterfaces :=
  (configValidate_eq_none.mp h.valid).2.2.2.2.1

theorem logFile_ne_nil (h : configValidate config = none) : config.logFile.cstr ≠ [] := by
  have hfirst := (configValidate_eq_none.mp h).2.2.2.2.2.2.2.2.2.2.2.2.2.2.1
  exact fun he => hfirst (head?_eq_zero_of_cstr_eq_nil he (by decide))

theorem logMaxSize_ne_zero (h : configValidate config = none) : config.logMaxSize ≠ 0 :=
  (configValidate_eq_none.mp h).2.2.2.2.2.2.2.2.2.2.2.2.2.2.2

/-- A process name in use is not empty, and it is terminated. -/
theorem processName_in_use (h : Usable config) {i : Fin maxProcessNames}
    (hi : i < config.processNameCount.toNat) :
    (config.processNames i).cstr ≠ [] ∧ (config.processNames i).Terminated := by
  have hname := (configValidate_eq_none.mp h.valid).2.2.2.1 i
  rw [validateProcessName, if_pos hi] at hname
  simp only [Option.orElse_eq_orElse, Option.orElse_eq_or, Option.or_eq_none_iff,
    reject_eq_none, not_not] at hname
  exact ⟨fun he => hname.1 (head?_eq_zero_of_cstr_eq_nil he (by decide)), hname.2⟩

end Usable

/-! ### `process_name` stays sound -/

theorem nameTerminated_defaults (config : AppConfig) : NameTerminated (configSetDefaults config) :=
  CharArray.terminated_store _ (by decide)

theorem nameSet_defaults (config : AppConfig) : NameSet (configSetDefaults config) :=
  fun h => absurd rfl h

/-- The names a list is parsed into are terminated. -/
theorem terminated_parseNames {size : ℕ} {prepare : Bytes → Bytes} {tokens : List Bytes}
    {count n : ℕ} {parsed parsed' : Fin 8 → CharArray size} (h : ∀ i, (parsed i).Terminated)
    (hp : parseNames prepare tokens count parsed = some (n, parsed')) :
    ∀ i, (parsed' i).Terminated := by
  induction tokens generalizing count parsed with
  | nil =>
    obtain ⟨rfl, rfl⟩ := Prod.mk.inj (Option.some.inj hp)
    exact h
  | cons token tokens ih =>
    unfold parseNames at hp
    dsimp only at hp
    split_ifs at hp with hcount hlen hdup
    refine ih (fun i => ?_) hp
    rw [not_or, not_le] at hlen
    by_cases hi : i = ⟨count, hcount⟩
    · subst hi
      rw [Function.update_self]
      exact CharArray.terminated_store _ hlen.2
    · rw [Function.update_of_ne hi]
      exact h i

section Branches

variable {value : Bytes} {P : ConfigValueStatus × AppConfig → Prop} (hP : P (.invalid, config))

/-! A branch refuses the value, and leaves the record alone, or makes its assignment. -/

include hP

theorem setUnsignedInt_elim {set : UInt32 → AppConfig} (h : ∀ v, P (.ok, set v)) :
    P (setUnsignedInt config value set) := by
  unfold setUnsignedInt
  split
  · exact hP
  · exact h _

theorem setDouble_elim {set : Double → AppConfig} (h : ∀ v, P (.ok, set v)) :
    P (setDouble config value set) := by
  unfold setDouble
  split
  · exact hP
  · exact h _

theorem setString_elim {size : ℕ} {set : Bytes → AppConfig}
    (h : value.length < size → P (.ok, set value)) : P (setString config value size set) := by
  unfold setString
  split
  · exact hP
  · exact h (by omega)

theorem setNames_elim {size : ℕ} (hsize : 0 < size) {prepare : Bytes → Bytes}
    {set : UInt32 → (Fin 8 → CharArray size) → AppConfig}
    (h : ∀ count parsed, (∀ i, (parsed i).Terminated) → P (.ok, set count parsed)) :
    P (setNames size config value prepare set) := by
  have hzero : ∀ _ : Fin 8, (CharArray.zero size).Terminated := fun _ =>
    List.mem_replicate.mpr ⟨hsize.ne', rfl⟩
  unfold setNames
  split_ifs
  · exact hP
  · exact hP
  · split
    · exact hP
    · rename_i count parsed hp
      split_ifs
      · exact hP
      · exact h _ _ (terminated_parseNames hzero hp)

theorem setProcessNames_elim
    (h : ∀ count parsed, (∀ i, (parsed i).Terminated) →
      P (.ok, { config with
        processNames := parsed
        processNameCount := count
        processName := config.processName.store (parsed 0).cstr })) :
    P (setProcessNames config value) := by
  unfold setProcessNames
  split_ifs
  · exact hP
  · exact setNames_elim hP (by decide) h

theorem setNotificationEnabled_elim
    (h : ∀ v ≤ 1, P (.ok, { config with notificationEnabled := .ofNat v })) :
    P (setNotificationEnabled config value) := by
  unfold setNotificationEnabled
  split
  · exact hP
  · split_ifs with hle
    · exact hP
    · exact h _ (not_lt.mp hle)

theorem setLogMaxSize_elim (h : ∀ v, P (.ok, { config with logMaxSize := v })) :
    P (setLogMaxSize config value) := by
  unfold setLogMaxSize
  split
  · exact hP
  · exact h _

end Branches

section Records

variable {value : Bytes} (P : AppConfig → Prop) (hP : P config)

/-! What holds of the record before a branch, and after its assignment, holds behind it. -/

include hP

theorem setUnsignedInt_induction {set : UInt32 → AppConfig} (h : ∀ v, P (set v)) :
    P (setUnsignedInt config value set).2 :=
  setUnsignedInt_elim (P := fun r => P r.2) hP h

theorem setDouble_induction {set : Double → AppConfig} (h : ∀ v, P (set v)) :
    P (setDouble config value set).2 :=
  setDouble_elim (P := fun r => P r.2) hP h

theorem setString_induction {size : ℕ} {set : Bytes → AppConfig}
    (h : value.length < size → P (set value)) : P (setString config value size set).2 :=
  setString_elim (P := fun r => P r.2) hP h

theorem setNames_induction {size : ℕ} (hsize : 0 < size) {prepare : Bytes → Bytes}
    {set : UInt32 → (Fin 8 → CharArray size) → AppConfig}
    (h : ∀ count parsed, (∀ i, (parsed i).Terminated) → P (set count parsed)) :
    P (setNames size config value prepare set).2 :=
  setNames_elim (P := fun r => P r.2) hP hsize h

theorem setProcessNames_induction
    (h : ∀ count parsed, (∀ i, (parsed i).Terminated) →
      P { config with
        processNames := parsed
        processNameCount := count
        processName := config.processName.store (parsed 0).cstr }) :
    P (setProcessNames config value).2 :=
  setProcessNames_elim (P := fun r => P r.2) hP h

theorem setNotificationEnabled_induction
    (h : ∀ v ≤ 1, P { config with notificationEnabled := .ofNat v }) :
    P (setNotificationEnabled config value).2 :=
  setNotificationEnabled_elim (P := fun r => P r.2) hP h

theorem setLogMaxSize_induction (h : ∀ v, P { config with logMaxSize := v }) :
    P (setLogMaxSize config value).2 :=
  setLogMaxSize_elim (P := fun r => P r.2) hP h

end Records

/-- An assignment keeps `process_name` terminated. -/
theorem nameTerminated_configSetValue (h : NameTerminated config) (key value : Bytes) :
    NameTerminated (configSetValue config key value).2 := by
  obtain ⟨k, rfl, hbranch⟩ | hunknown := configSetValue_cases key
  · rw [hbranch]
    cases k
    all_goals dsimp only [Key.branch]
    case monitorInterval | processPid => exact setUnsignedInt_induction NameTerminated h fun _ => h
    case processName =>
      exact setString_induction NameTerminated h fun hlt => CharArray.terminated_store _ hlt
    case notificationCommand | logFile => exact setString_induction NameTerminated h fun _ => h
    case processNames =>
      exact setProcessNames_induction NameTerminated h fun _ _ hp =>
        CharArray.terminated_store _ (CharArray.length_cstr_lt (hp 0))
    case networkInterfaces =>
      exact setNames_induction NameTerminated h (by decide) fun _ _ _ => h
    case notificationEnabled => exact setNotificationEnabled_induction NameTerminated h fun _ _ => h
    case logMaxSize => exact setLogMaxSize_induction NameTerminated h fun _ => h
    all_goals exact setDouble_induction NameTerminated h fun _ => h
  · rw [hunknown]
    exact h

/-- `process_names` is in use if its setting is not empty. -/
theorem processNameCount_ne_zero_iff :
    config.processNameCount ≠ 0 ↔ setting config .processNames ≠ .names [] := by
  have hiff : usedNames config.processNameCount.toNat config.processNames = [] ↔
      config.processNameCount.toNat = 0 := by
    rw [usedNames, List.take_eq_nil_iff, List.ofFn_succ]
    simp
  rw [setting, ne_eq, ne_eq, not_iff_not, Setting.names.injEq, hiff]
  exact ⟨fun h => h ▸ rfl, fun h => UInt32.toNat_inj.mp h⟩

theorem nameSet_iff : NameSet config ↔
    (setting config .processNames ≠ .names [] → setting config .processName ≠ .text []) := by
  rw [NameSet, processNameCount_ne_zero_iff]
  simp only [setting, ne_eq, Setting.text.injEq]

/-- An assignment of a string that is not empty keeps `process_name` set. -/
theorem nameSet_configSetValue (h : NameSet config) (key : Bytes) {value : Bytes}
    (h0 : 0 ∉ value) (hne : value ≠ []) : NameSet (configSetValue config key value).2 := by
  obtain ⟨k, rfl, -⟩ | hunknown := configSetValue_cases key
  · cases hx : k.read value with
    | none =>
      have hr := refines_configSetValue config h0 k
      unfold Refines at hr
      rw [hx] at hr
      rw [hr]
      exact h
    | some x =>
      rw [nameSet_iff] at h ⊢
      rw [setting_configSetValue h0 hx]
      cases k with
      | processName =>
        rw [Key.read, readText] at hx
        split_ifs at hx
        obtain rfl := Option.some.inj hx
        exact fun _ => by simpa [assign] using hne
      | processNames =>
        rw [Key.read, readNames] at hx
        split_ifs at hx with hc
        obtain rfl := Option.some.inj hx
        obtain ⟨name, rest, hl⟩ := List.exists_cons_of_ne_nil hc.2.2.1
        have hname := (hc.2.2.2.2.1 name (by rw [hl]; exact List.mem_cons_self)).1
        exact fun _ => by simpa [assign, hl] using hname
      | _ => simpa [assign] using h
  · rw [hunknown]
    exact h

/-- A line keeps what every assignment keeps. -/
theorem configLoadLine_induction {P : AppConfig → Prop}
    (hset : ∀ config key value, 0 ∉ value → value ≠ [] → P config →
      P (configSetValue config key value).2)
    {loaded : AppConfig × Bool} (h : P loaded.1) (piece : Bytes) :
    P (configLoadLine piece loaded).1 := by
  unfold configLoadLine
  dsimp only
  split
  · exact h
  · split
    · exact h
    · rename_i key value hsplit
      split
      · exact h
      · rename_i hempty
        rw [not_or] at hempty
        have h0 : 0 ∉ value := by
          unfold strchr at hsplit
          split_ifs at hsplit
          obtain ⟨-, rfl⟩ := Prod.mk.inj (Option.some.inj hsplit)
          exact fun hm => zero_not_mem_trim (zero_not_mem_cstr piece)
            ((List.dropWhile_suffix _).subset (List.mem_of_mem_tail hm))
        have hnext := hset loaded.1 (trim key) (trim value) (zero_not_mem_trim h0) hempty.2 h
        generalize configSetValue loaded.1 (trim key) (trim value) = r at hnext ⊢
        obtain ⟨status, config⟩ := r
        cases status <;> exact hnext

/-- **A file keeps what every assignment keeps**, whatever is in it. -/
theorem configLoad_induction {P : AppConfig → Prop}
    (hset : ∀ config key value, 0 ∉ value → value ≠ [] → P config →
      P (configSetValue config key value).2)
    (h : P config) (file : Option ConfigFile) : P (configLoad file config).2 := by
  have hloop : ∀ (pieces : List Bytes) (loaded : AppConfig × Bool), P loaded.1 →
      P (pieces.foldl (fun l piece => configLoadLine piece l) loaded).1 := by
    intro pieces
    induction pieces with
    | nil => exact fun _ hl => hl
    | cons piece pieces ih => exact fun loaded hl => ih _ (configLoadLine_induction hset hl piece)
  unfold configLoad
  cases file with
  | none => exact h
  | some file =>
    dsimp only
    split
    · exact h
    · split
      · exact h
      · exact hloop _ (config, false) h

/-- **A file loaded over the defaults is usable** once it is valid. -/
theorem usable_configLoad (file : Option ConfigFile)
    (h : configValidate (configLoad file (configSetDefaults config)).2 = none) :
    Usable (configLoad file (configSetDefaults config)).2 where
  valid := h
  terminated := configLoad_induction (P := NameTerminated)
    (fun _ key value _ _ hc => nameTerminated_configSetValue hc key value)
    (nameTerminated_defaults config) file
  named := configLoad_induction (P := NameSet)
    (fun _ key _ h0 hne hc => nameSet_configSetValue hc key h0 hne) (nameSet_defaults config) file

/-- The defaults are usable. -/
theorem usable_defaults (config : AppConfig) : Usable (configSetDefaults config) :=
  ⟨configValidate_defaults config, nameTerminated_defaults config, nameSet_defaults config⟩

end EdgeSentinel.Config
