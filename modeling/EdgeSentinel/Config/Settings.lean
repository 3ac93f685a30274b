import EdgeSentinel.CLib.Numerals
import EdgeSentinel.CLib.Split
import EdgeSentinel.Config.Model

/-!
# What an assignment means

A configuration is, for its user, one setting for each key. This module reads the
record of the source that way, and says what an assignment `key = value` does to it.

## The model

* `Key` are the keys, `Setting` what they can be set to. `setting config k` is what the
  record holds for the key `k`: strings as C strings, lists of names as far as they are
  in use.
* `Key.read` says which values a key accepts and what they mean, without the record:
  this is the abstract side.
* `assign` is an assignment to a map of settings. Every key is on its own, but for
  `process_names`: it also sets the older `process_name`, to its first name.

## What is proved

* `parseNames_spec` — the loop over a list of names accepts it exactly if it is made of
  at most eight different names that fit, and stores them in order.
* `configSetValue_status` — **whether a value is accepted** depends on the key and the
  value only.
* `setting_configSetValue` — **the record refines the map**: an accepted assignment is
  `assign` on the settings.
-/

namespace EdgeSentinel.Config

open CLib

/-! ### Keys and settings -/

/-- The keys of a configuration file. -/
inductive Key where
  /-- `monitor_interval`. -/
  | monitorInterval
  /-- `process_pid`. -/
  | processPid
  /-- `process_name`. -/
  | processName
  /-- `process_names`. -/
  | processNames
  /-- `network_interfaces`. -/
  | networkInterfaces
  /-- `notification_enabled`. -/
  | notificationEnabled
  /-- `notification_command`. -/
  | notificationCommand
  /-- `cpu_warning_threshold`. -/
  | cpuWarningThreshold
  /-- `cpu_critical_threshold`. -/
  | cpuCriticalThreshold
  /-- `process_cpu_warning_threshold`. -/
  | processCpuWarningThreshold
  /-- `process_cpu_critical_threshold`. -/
  | processCpuCriticalThreshold
  /-- `process_memory_warning_threshold_mib`. -/
  | processMemoryWarningThresholdMib
  /-- `process_memory_critical_threshold_mib`. -/
  | processMemoryCriticalThresholdMib
  /-- `memory_warning_threshold`. -/
  | memoryWarningThreshold
  /-- `memory_critical_threshold`. -/
  | memoryCriticalThreshold
  /-- `disk_warning_threshold`. -/
  | diskWarningThreshold
  /-- `disk_critical_threshold`. -/
  | diskCriticalThreshold
  /-- `log_file`. -/
  | logFile
  /-- `log_max_size`. -/
  | logMaxSize
  deriving DecidableEq, Repr

/-- The text of a key. -/
def Key.name : Key → Bytes
  | .monitorInterval => ascii "monitor_interval"
  | .processPid => ascii "process_pid"
  | .processName => ascii "process_name"
  | .processNames => ascii "process_names"
  | .networkInterfaces => ascii "network_interfaces"
  | .notificationEnabled => ascii "notification_enabled"
  | .notificationCommand => ascii "notification_command"
  | .cpuWarningThreshold => ascii "cpu_warning_threshold"
  | .cpuCriticalThreshold => ascii "cpu_critical_threshold"
  | .processCpuWarningThreshold => ascii "process_cpu_warning_threshold"
  | .processCpuCriticalThreshold => ascii "process_cpu_critical_threshold"
  | .processMemoryWarningThresholdMib => ascii "process_memory_warning_threshold_mib"
  | .processMemoryCriticalThresholdMib => ascii "process_memory_critical_threshold_mib"
  | .memoryWarningThreshold => ascii "memory_warning_threshold"
  | .memoryCriticalThreshold => ascii "memory_critical_threshold"
  | .diskWarningThreshold => ascii "disk_warning_threshold"
  | .diskCriticalThreshold => ascii "disk_critical_threshold"
  | .logFile => ascii "log_file"
  | .logMaxSize => ascii "log_max_size"

/-- What a key can be set to. -/
inductive Setting where
  /-- A whole number. -/
  | number (n : ℕ)
  /-- A number. -/
  | double (d : Double)
  /-- A text. -/
  | text (s : Bytes)
  /-- A list of names. -/
  | names (l : List Bytes)
  deriving DecidableEq

/-- What the record holds for a key. -/
def setting (config : AppConfig) : Key → Setting
  | .monitorInterval => .number config.monitorInterval.toNat
  | .processPid => .number config.processPid.toNat
  | .processName => .text config.processName.cstr
  | .processNames => .names (usedNames config.processNameCount.toNat config.processNames)
  | .networkInterfaces =>
    .names (usedNames config.networkInterfaceCount.toNat config.networkInterfaces)
  | .notificationEnabled => .number config.notificationEnabled.toNat
  | .notificationCommand => .text config.notificationCommand.cstr
  | .cpuWarningThreshold => .double config.cpuWarningThreshold
  | .cpuCriticalThreshold => .double config.cpuCriticalThreshold
  | .processCpuWarningThreshold => .double config.processCpuWarningThreshold
  | .processCpuCriticalThreshold => .double config.processCpuCriticalThreshold
  | .processMemoryWarningThresholdMib => .double config.processMemoryWarningThresholdMib
  | .processMemoryCriticalThresholdMib => .double config.processMemoryCriticalThresholdMib
  | .memoryWarningThreshold => .double config.memoryWarningThreshold
  | .memoryCriticalThreshold => .double config.memoryCriticalThreshold
  | .diskWarningThreshold => .double config.diskWarningThreshold
  | .diskCriticalThreshold => .double config.diskCriticalThreshold
  | .logFile => .text config.logFile.cstr
  | .logMaxSize => .number config.logMaxSize.toNat

/-- A list of names that fits into eight buffers of `size` bytes: none is empty or too
long, and no two are the same. -/
def NamesFit (size : ℕ) (names : List Bytes) : Prop :=
  names.length ≤ 8 ∧ (∀ name ∈ names, name ≠ [] ∧ name.length < size) ∧ names.Nodup

instance (size : ℕ) (names : List Bytes) : Decidable (NamesFit size names) :=
  inferInstanceAs (Decidable (_ ∧ _ ∧ _))

/-- A list of names with commas between them, each made ready by `prepare`. -/
def readNames (size : ℕ) (prepare : Bytes → Bytes) (value : Bytes) : Option Setting :=
  let names := (strtok comma value).map prepare
  if ¬ HasEmptyName value ∧ value.length < 8 * size ∧ names ≠ [] ∧ NamesFit size names then
    some (.names names)
  else none

/-- A text that fits into a buffer of `size` bytes. -/
def readText (size : ℕ) (value : Bytes) : Option Setting :=
  if value.length < size then some (.text value) else none

/-- What a value means for a key, if the key accepts it. -/
def Key.read : Key → Bytes → Option Setting
  | .monitorInterval, value | .processPid, value =>
    (parseUnsignedInt ulongMax value).map .number
  | .notificationEnabled, value =>
    ((parseUnsignedInt ulongMax value).filter (· ≤ 1)).map .number
  | .logMaxSize, value => (parseUnsignedLong ulongMax value).map .number
  | .processName, value => readText processNameLength value
  | .notificationCommand, value => readText notificationCommandLength value
  | .logFile, value => readText pathLength value
  | .processNames, value => readNames processNameLength id value
  | .networkInterfaces, value => readNames networkInterfaceNameLength trim value
  | _, value => (parseDouble value).map .double

/-- An assignment to a map of settings. -/
def assign (settings : Key → Setting) (k : Key) (x : Setting) : Key → Setting :=
  match k, x with
  | .processNames, .names l =>
    Function.update (Function.update settings .processNames x) .processName (.text (l.headD []))
  | k, x => Function.update settings k x

/-! ### Numbers -/

theorem parseUnsignedInt_le {max v : ℕ} {text : Bytes} (h : parseUnsignedInt max text = some v) :
    v ≤ uintMax := by
  unfold parseUnsignedInt at h
  dsimp only at h
  split_ifs at h with h₁ h₂ h₃
  obtain rfl := Option.some.inj h
  simp only [not_or, not_lt] at h₃
  exact h₃.2.2.2

theorem parseUnsignedLong_le {max v : ℕ} {text : Bytes}
    (h : parseUnsignedLong max text = some v) : v ≤ max := by
  unfold parseUnsignedLong at h
  dsimp only at h
  split_ifs at h
  obtain rfl := Option.some.inj h
  exact strtoul_le max text

/-! ### Lists of names -/

/-- The names in use are the first ones. -/
theorem usedNames_eq_of_getElem {size : ℕ} {count : ℕ} {names : Fin 8 → CharArray size}
    {l : List Bytes} (hl : l.length = count) (h8 : count ≤ 8)
    (h : ∀ (j : ℕ) (hj : j < l.length), (names ⟨j, by omega⟩).cstr = l[j]) :
    usedNames count names = l := by
  refine List.ext_getElem ?_ fun j hj hj' => ?_
  · rw [usedNames, List.length_take, List.length_ofFn]
    omega
  · simp only [usedNames, List.getElem_take, List.getElem_ofFn]
    exact h j hj'

/-- A longer list fits if the shorter one does and the new name is one. -/
theorem namesFit_append_singleton {size : ℕ} {names : List Bytes} {name : Bytes} :
    NamesFit size (names ++ [name]) ↔ NamesFit size names ∧ names.length < 8 ∧
      (name ≠ [] ∧ name.length < size) ∧ name ∉ names := by
  unfold NamesFit
  rw [List.length_append, List.length_singleton, List.nodup_append]
  simp only [List.mem_append, List.mem_singleton, List.nodup_cons, List.not_mem_nil,
    not_false_eq_true, List.nodup_nil, and_self, true_and]
  constructor
  · rintro ⟨hlen, hall, hnd, hne⟩
    exact ⟨⟨by omega, fun n hn => hall n (.inl hn), hnd⟩, by omega, hall name (.inr rfl),
      fun hm => hne name hm name rfl rfl⟩
  · rintro ⟨⟨-, hall, hnd⟩, hlen, hname, hnot⟩
    refine ⟨by omega, ?_, hnd, ?_⟩
    · rintro n (hn | rfl)
      · exact hall n hn
      · exact hname
    · rintro a ha b rfl rfl
      exact hnot ha

/-- **The loop over the names**: it accepts the names exactly if they fit, and stores them
behind those that are done. -/
theorem parseNames_spec {size : ℕ} (prepare : Bytes → Bytes) (tokens : List Bytes)
    (done : List Bytes) (parsed : Fin 8 → CharArray size) (hfit : NamesFit size done)
    (hdone : ∀ (j : ℕ) (hj : j < done.length),
      (parsed ⟨j, lt_of_lt_of_le hj hfit.1⟩).cstr = done[j])
    (h0 : ∀ token ∈ tokens, 0 ∉ prepare token) :
    match parseNames prepare tokens done.length parsed with
    | some (count, parsed') => NamesFit size (done ++ tokens.map prepare) ∧
        count = (done ++ tokens.map prepare).length ∧
        usedNames count parsed' = done ++ tokens.map prepare
    | none => ¬ NamesFit size (done ++ tokens.map prepare) := by
  induction tokens generalizing done parsed with
  | nil =>
    simp only [parseNames, List.map_nil, List.append_nil]
    exact ⟨hfit, trivial, usedNames_eq_of_getElem rfl hfit.1 hdone⟩
  | cons token tokens ih =>
    have hsplit : done ++ (token :: tokens).map prepare =
        (done ++ [prepare token]) ++ tokens.map prepare := by simp
    -- a longer list that fits needs its beginning to fit
    have hbegin : NamesFit size ((done ++ [prepare token]) ++ tokens.map prepare) →
        NamesFit size (done ++ [prepare token]) := by
      rintro ⟨hlen, hall, hnd⟩
      rw [List.length_append] at hlen
      exact ⟨by omega, fun n hn => hall n (List.mem_append_left _ hn),
        (List.nodup_append.mp hnd).1⟩
    have hmem : (∃ i : Fin 8, i < done.length ∧ (parsed i).cstr = prepare token) ↔
        prepare token ∈ done := by
      constructor
      · rintro ⟨i, hi, he⟩
        rw [← he, hdone i hi]
        exact List.getElem_mem hi
      · intro hm
        obtain ⟨j, hj, he⟩ := List.getElem_of_mem hm
        exact ⟨⟨j, lt_of_lt_of_le hj hfit.1⟩, hj, (hdone j hj).trans he⟩
    rw [hsplit, parseNames]
    by_cases hcount : done.length < 8
    · rw [dif_pos hcount]
      dsimp only
      by_cases hlen : (prepare token).length = 0 ∨ size ≤ (prepare token).length
      · rw [if_pos hlen]
        intro hc
        obtain ⟨-, -, ⟨hne, hlt⟩, -⟩ := namesFit_append_singleton.mp (hbegin hc)
        rcases hlen with hz | hge
        · exact hne (List.length_eq_zero_iff.mp hz)
        · omega
      · rw [if_neg hlen]
        simp only [not_or, not_le] at hlen
        by_cases hdup : ∃ i : Fin 8, i < done.length ∧ (parsed i).cstr = prepare token
        · rw [if_pos hdup]
          intro hc
          exact (namesFit_append_singleton.mp (hbegin hc)).2.2.2 (hmem.mp hdup)
        · rw [if_neg hdup]
          have hfit' : NamesFit size (done ++ [prepare token]) :=
            namesFit_append_singleton.mpr ⟨hfit, hcount,
              ⟨fun he => hlen.1 (by rw [he]; rfl), hlen.2⟩, fun hm => hdup (hmem.mpr hm)⟩
          have hnext := ih (done ++ [prepare token])
            (Function.update parsed ⟨done.length, hcount⟩
              ((parsed ⟨done.length, hcount⟩).store (prepare token))) hfit'
            (fun j hj => by
              rw [List.length_append, List.length_singleton] at hj
              by_cases hj' : j = done.length
              · subst hj'
                rw [Function.update_self, CharArray.cstr_store _ (h0 token (by simp)) hlen.2]
                simp
              · have hlt : j < done.length := by omega
                rw [Function.update_of_ne (by simpa using hj'), hdone j hlt,
                  List.getElem_append_left hlt])
            (fun t ht => h0 t (List.mem_cons_of_mem _ ht))
          rw [List.length_append, List.length_singleton] at hnext
          exact hnext
    · rw [dif_neg hcount]
      intro hc
      exact hcount (namesFit_append_singleton.mp (hbegin hc)).2.1

/-- The tokens of a string have no NUL if the string has none. -/
theorem zero_not_mem_strtok {sep : UInt8} {s : Bytes} (h0 : 0 ∉ s) :
    ∀ token ∈ strtok sep s, 0 ∉ token := by
  intro token ht hm
  exact h0 (mem_of_mem_splitOn (List.mem_filter.mp ht).1 hm)

theorem zero_not_mem_trim {s : Bytes} (h0 : 0 ∉ s) : 0 ∉ trim s := fun h =>
  h0 ((List.dropWhile_suffix _).subset ((List.rdropWhile_prefix _ _).subset h))

/-- What `readNames` accepts, the loop accepts, and the other way round. -/
theorem parseNames_strtok (size : ℕ) (prepare : Bytes → Bytes) {value : Bytes}
    (h0 : ∀ token ∈ strtok comma value, 0 ∉ prepare token) :
    match parseNames prepare (strtok comma value) 0 fun _ => .zero size with
    | some (count, parsed) => NamesFit size ((strtok comma value).map prepare) ∧
        count = ((strtok comma value).map prepare).length ∧
        usedNames count parsed = (strtok comma value).map prepare
    | none => ¬ NamesFit size ((strtok comma value).map prepare) := by
  have hfit : NamesFit size [] := ⟨by simp, by simp, by simp⟩
  simpa using parseNames_spec prepare (strtok comma value) [] (fun _ => .zero size) hfit
    (by simp) h0

/-! ### Assignments -/

/-- The status of an assignment and the record behind it are what the abstract side says:
a value the key accepts is assigned, another one leaves the record as it was. -/
def Refines (config : AppConfig) (k : Key) (value : Bytes)
    (result : ConfigValueStatus × AppConfig) : Prop :=
  match k.read value with
  | some x => result.1 = .ok ∧ setting result.2 = assign (setting config) k x
  | none => result = (.invalid, config)

variable {config : AppConfig} {k : Key} {value : Bytes}

theorem refines_setUnsignedInt {set : UInt32 → AppConfig}
    (hread : k.read value = (parseUnsignedInt ulongMax value).map .number)
    (hset : ∀ v, setting (set v) = assign (setting config) k (.number v.toNat)) :
    Refines config k value (setUnsignedInt config value set) := by
  unfold Refines setUnsignedInt
  rw [hread]
  cases hv : parseUnsignedInt ulongMax value with
  | none => rfl
  | some v =>
    have hlt : v < 2 ^ 32 := Nat.lt_succ_of_le (parseUnsignedInt_le hv)
    refine ⟨rfl, ?_⟩
    rw [hset, UInt32.toNat_ofNat', Nat.mod_eq_of_lt hlt]

theorem refines_setDouble {set : Double → AppConfig}
    (hread : k.read value = (parseDouble value).map .double)
    (hset : ∀ v, setting (set v) = assign (setting config) k (.double v)) :
    Refines config k value (setDouble config value set) := by
  unfold Refines setDouble
  rw [hread]
  cases parseDouble value with
  | none => rfl
  | some v => exact ⟨rfl, hset v⟩

theorem refines_setString {size : ℕ} {set : Bytes → AppConfig}
    (hread : k.read value = readText size value)
    (hset : value.length < size → setting (set value) = assign (setting config) k (.text value)) :
    Refines config k value (setString config value size set) := by
  unfold Refines setString readText at *
  rw [hread]
  by_cases h : value.length < size
  · rw [if_pos h, if_neg (by omega)]
    exact ⟨rfl, hset h⟩
  · rw [if_neg h, if_pos (by omega)]

theorem refines_setNames {size : ℕ} {prepare : Bytes → Bytes}
    {set : UInt32 → (Fin 8 → CharArray size) → AppConfig}
    (h0 : ∀ token ∈ strtok comma value, 0 ∉ prepare token)
    (hread : k.read value = readNames size prepare value)
    (hset : ∀ count parsed names, names ≠ [] → NamesFit size names →
      usedNames count.toNat parsed = names →
      setting (set count parsed) = assign (setting config) k (.names names)) :
    Refines config k value (setNames size config value prepare set) := by
  have hnames := parseNames_strtok size prepare h0
  unfold Refines setNames
  rw [hread, readNames]
  by_cases hempty : HasEmptyName value
  · rw [if_pos hempty, if_neg fun h => h.1 hempty]
  by_cases hlong : 8 * size ≤ value.length
  · rw [if_neg hempty, if_pos hlong, if_neg fun h => absurd h.2.1 (not_lt.mpr hlong)]
  rw [if_neg hempty, if_neg hlong]
  cases hp : parseNames prepare (strtok comma value) 0 fun _ => CharArray.zero size with
  | none =>
    rw [hp] at hnames
    rw [if_neg fun h => hnames h.2.2.2]
  | some r =>
    obtain ⟨count, parsed⟩ := r
    rw [hp] at hnames
    obtain ⟨hfit, hcount, hused⟩ := hnames
    by_cases hc : count = 0
    · rw [if_neg fun h => h.2.2.1 (List.length_eq_zero_iff.mp (hcount.symm.trans hc))]
      simp only [hc, if_true]
    · have hne : (strtok comma value).map prepare ≠ [] := fun he => hc (by rw [hcount, he]; rfl)
      rw [if_pos ⟨hempty, not_le.mp hlong, hne, hfit⟩]
      simp only [if_neg hc, true_and]
      refine hset _ parsed _ hne hfit ?_
      have hlt : count < 2 ^ 32 := by
        have := hfit.1
        omega
      rw [UInt32.toNat_ofNat', Nat.mod_eq_of_lt hlt, hused]

theorem refines_setProcessNames (h0 : 0 ∉ value) :
    Refines config .processNames value (setProcessNames config value) := by
  unfold setProcessNames
  by_cases hlen : value.length = 0
  · rw [if_pos hlen, List.length_eq_zero_iff.mp hlen]
    rfl
  rw [if_neg hlen]
  refine refines_setNames (zero_not_mem_strtok h0) rfl fun count parsed names hne hfit hused => ?_
  have hfirst : (parsed 0).cstr = names.headD [] := by
    obtain ⟨name, rest, rfl⟩ := List.exists_cons_of_ne_nil hne
    have h := congrArg List.head? hused
    rw [usedNames, List.head?_take, List.ofFn_succ] at h
    split_ifs at h
    · simp at h
    · exact Option.some.inj h
  funext j
  cases j
  case processName =>
    have hlt : names.headD [] ∈ names := by
      obtain ⟨name, rest, rfl⟩ := List.exists_cons_of_ne_nil hne
      exact List.mem_cons_self
    refine congrArg Setting.text ((CharArray.cstr_store _ ?_ ?_).trans hfirst)
    · exact CharArray.zero_not_mem_cstr _
    · rw [hfirst]
      exact (hfit.2.1 _ hlt).2
  case processNames => exact congrArg Setting.names hused
  all_goals rfl

theorem refines_setNetworkInterfaces (h0 : 0 ∉ value) :
    Refines config .networkInterfaces value (setNetworkInterfaces config value) := by
  refine refines_setNames (fun token ht => zero_not_mem_trim (zero_not_mem_strtok h0 token ht)) rfl
    fun count parsed names _ _ hused => ?_
  funext j
  cases j
  case networkInterfaces => exact congrArg Setting.names hused
  all_goals rfl

theorem refines_setNotificationEnabled :
    Refines config .notificationEnabled value (setNotificationEnabled config value) := by
  unfold Refines setNotificationEnabled
  rw [Key.read]
  cases hv : parseUnsignedInt ulongMax value with
  | none => rfl
  | some v =>
    by_cases h : 1 < v
    · simp [Option.filter, h, not_le.mpr h]
    · have hlt : v < 2 ^ 32 := Nat.lt_succ_of_le (parseUnsignedInt_le hv)
      simp only [Option.filter, h, decide_true, not_lt.mp h, if_true, if_false, Option.map_some,
        true_and]
      funext j
      cases j
      case notificationEnabled =>
        show Setting.number (UInt32.ofNat v).toNat = _
        rw [UInt32.toNat_ofNat', Nat.mod_eq_of_lt hlt]
        rfl
      all_goals rfl

theorem refines_setLogMaxSize :
    Refines config .logMaxSize value (setLogMaxSize config value) := by
  unfold Refines setLogMaxSize
  rw [Key.read]
  cases hv : parseUnsignedLong ulongMax value with
  | none => rfl
  | some v =>
    have hlt : v < 2 ^ 64 := Nat.lt_succ_of_le (parseUnsignedLong_le hv)
    refine ⟨rfl, ?_⟩
    funext j
    cases j
    case logMaxSize =>
      show Setting.number (UInt64.ofNat v).toNat = _
      rw [UInt64.toNat_ofNat', Nat.mod_eq_of_lt hlt]
      rfl
    all_goals rfl

/-! ### The branches of `config_set_value` -/

/-- The branch for a key. -/
def Key.branch (config : AppConfig) (value : Bytes) : Key → ConfigValueStatus × AppConfig
  | .monitorInterval =>
    setUnsignedInt config value fun v => { config with monitorInterval := v }
  | .processPid => setUnsignedInt config value fun v => { config with processPid := v }
  | .processName =>
    setString config value processNameLength fun v =>
      { config with processName := config.processName.store v }
  | .processNames => setProcessNames config value
  | .networkInterfaces => setNetworkInterfaces config value
  | .notificationEnabled => setNotificationEnabled config value
  | .notificationCommand =>
    setString config value notificationCommandLength fun v =>
      { config with notificationCommand := config.notificationCommand.store v }
  | .cpuWarningThreshold =>
    setDouble config value fun v => { config with cpuWarningThreshold := v }
  | .cpuCriticalThreshold =>
    setDouble config value fun v => { config with cpuCriticalThreshold := v }
  | .processCpuWarningThreshold =>
    setDouble config value fun v => { config with processCpuWarningThreshold := v }
  | .processCpuCriticalThreshold =>
    setDouble config value fun v => { config with processCpuCriticalThreshold := v }
  | .processMemoryWarningThresholdMib =>
    setDouble config value fun v => { config with processMemoryWarningThresholdMib := v }
  | .processMemoryCriticalThresholdMib =>
    setDouble config value fun v => { config with processMemoryCriticalThresholdMib := v }
  | .memoryWarningThreshold =>
    setDouble config value fun v => { config with memoryWarningThreshold := v }
  | .memoryCriticalThreshold =>
    setDouble config value fun v => { config with memoryCriticalThreshold := v }
  | .diskWarningThreshold =>
    setDouble config value fun v => { config with diskWarningThreshold := v }
  | .diskCriticalThreshold =>
    setDouble config value fun v => { config with diskCriticalThreshold := v }
  | .logFile =>
    setString config value pathLength fun v =>
      { config with logFile := config.logFile.store v }
  | .logMaxSize => setLogMaxSize config value

/-- The chain of comparisons ends at the branch of the key. -/
theorem configSetValue_name (config : AppConfig) (k : Key) (value : Bytes) :
    configSetValue config k.name value = k.branch config value := by
  cases k <;> simp +decide only [configSetValue, Key.branch, if_true, if_false]

/-- **An assignment to a key** does what the abstract side says. -/
theorem refines_configSetValue (config : AppConfig) (h0 : 0 ∉ value) (k : Key) :
    Refines config k value (configSetValue config k.name value) := by
  rw [configSetValue_name]
  cases k
  all_goals dsimp only [Key.branch]
  case monitorInterval | processPid =>
    exact refines_setUnsignedInt rfl fun v => by funext j; cases j <;> rfl
  case processName =>
    refine refines_setString rfl fun hlt => ?_
    funext j
    cases j
    case processName => exact congrArg Setting.text (CharArray.cstr_store _ h0 hlt)
    all_goals rfl
  case notificationCommand =>
    refine refines_setString rfl fun hlt => ?_
    funext j
    cases j
    case notificationCommand => exact congrArg Setting.text (CharArray.cstr_store _ h0 hlt)
    all_goals rfl
  case logFile =>
    refine refines_setString rfl fun hlt => ?_
    funext j
    cases j
    case logFile => exact congrArg Setting.text (CharArray.cstr_store _ h0 hlt)
    all_goals rfl
  case processNames => exact refines_setProcessNames h0
  case networkInterfaces => exact refines_setNetworkInterfaces h0
  case notificationEnabled => exact refines_setNotificationEnabled
  case logMaxSize => exact refines_setLogMaxSize
  all_goals exact refines_setDouble rfl fun v => by funext j; cases j <;> rfl

/-- The name of a key tells it apart. -/
theorem Key.name_injective : Function.Injective Key.name := by
  intro k j h
  cases k <;> cases j <;> first | rfl | exact absurd h (by decide)

/-- A key that is none is unknown. -/
theorem configSetValue_unknown {key : Bytes} (h : ∀ k : Key, k.name ≠ key) :
    configSetValue config key value = (.unknown, config) := by
  have hne : ∀ k : Key, key ≠ k.name := fun k he => h k he.symm
  unfold configSetValue
  refine (if_neg (hne .monitorInterval)).trans ?_
  refine (if_neg (hne .processPid)).trans ?_
  refine (if_neg (hne .processName)).trans ?_
  refine (if_neg (hne .processNames)).trans ?_
  refine (if_neg (hne .networkInterfaces)).trans ?_
  refine (if_neg (hne .notificationEnabled)).trans ?_
  refine (if_neg (hne .notificationCommand)).trans ?_
  refine (if_neg (hne .cpuWarningThreshold)).trans ?_
  refine (if_neg (hne .cpuCriticalThreshold)).trans ?_
  refine (if_neg (hne .processCpuWarningThreshold)).trans ?_
  refine (if_neg (hne .processCpuCriticalThreshold)).trans ?_
  refine (if_neg (hne .processMemoryWarningThresholdMib)).trans ?_
  refine (if_neg (hne .processMemoryCriticalThresholdMib)).trans ?_
  refine (if_neg (hne .memoryWarningThreshold)).trans ?_
  refine (if_neg (hne .memoryCriticalThreshold)).trans ?_
  refine (if_neg (hne .diskWarningThreshold)).trans ?_
  refine (if_neg (hne .diskCriticalThreshold)).trans ?_
  refine (if_neg (hne .logFile)).trans ?_
  exact if_neg (hne .logMaxSize)

/-- **What `config_set_value` does** is in the branch of a key, or there is no such key. -/
theorem configSetValue_cases (key : Bytes) :
    (∃ k : Key, k.name = key ∧
      ∀ config value, configSetValue config key value = k.branch config value) ∨
    ∀ config value, configSetValue config key value = (.unknown, config) := by
  by_cases hk : ∃ k : Key, k.name = key
  · obtain ⟨k, rfl⟩ := hk
    exact .inl ⟨k, rfl, fun config value => configSetValue_name config k value⟩
  · exact .inr fun config value => configSetValue_unknown fun k he => hk ⟨k, he⟩

/-- **Whether a value is accepted** does not depend on the record: the key and the value
decide. -/
theorem configSetValue_ok_iff (h0 : 0 ∉ value) {key : Bytes} :
    (configSetValue config key value).1 = .ok ↔
      ∃ k : Key, k.name = key ∧ (k.read value).isSome := by
  constructor
  · intro h
    by_cases hk : ∃ k : Key, k.name = key
    · obtain ⟨k, rfl⟩ := hk
      have hr := refines_configSetValue config h0 k
      unfold Refines at hr
      cases hx : k.read value with
      | some x => exact ⟨k, rfl, by rw [hx]; rfl⟩
      | none =>
        rw [hx] at hr
        rw [hr] at h
        cases h
    · rw [configSetValue_unknown fun k he => hk ⟨k, he⟩] at h
      cases h
  · rintro ⟨k, rfl, hx⟩
    have hr := refines_configSetValue config h0 k
    unfold Refines at hr
    obtain ⟨x, hx⟩ := Option.isSome_iff_exists.mp hx
    rw [hx] at hr
    exact hr.1

/-- **The record refines the map of settings**: an accepted assignment is `assign`. -/
theorem setting_configSetValue (h0 : 0 ∉ value) {x : Setting} (hx : k.read value = some x) :
    setting (configSetValue config k.name value).2 = assign (setting config) k x := by
  have hr := refines_configSetValue config h0 k
  unfold Refines at hr
  rw [hx] at hr
  exact hr.2

end EdgeSentinel.Config
