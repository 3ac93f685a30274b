import EdgeSentinel.Config.NameLists
import EdgeSentinel.Config.Valid

/-!
# Sound configurations

What every configuration that was loaded over the defaults is like, valid or not: its strings
are terminated, its lists of names hold names as they should be, and the log file has a name.
So the validator has little left to find wrong.

## The model

* `SoundNames` — a list of names as an assignment leaves it, with zeros behind its names.
* `Sound` — a configuration with sound lists and strings.
* `ConfigProblem.LeftToValidator` — what may be wrong with a sound configuration.

## What is proved

* `sound_configSetValue` — an assignment keeps a configuration sound, whether it is accepted or
  not.
* `sound_configLoad` — so does **loading a file**, whatever is in it; and over the defaults, the
  validator complains about nothing else than it should.
-/

namespace EdgeSentinel.Config

open CLib

variable {config : AppConfig} {value : Bytes} {size : ℕ}

/-! ### Lists of names -/

/-- A list of names in the record: the names in use are different names that are not empty and
have no comma, and the buffers behind them are zero. -/
structure SoundNames (count : ℕ) (buffers : Fin 8 → CharArray size) : Prop where
  /-- There are no more names than buffers. -/
  count_le : count ≤ 8
  /-- Every buffer is terminated. -/
  terminated : ∀ i, (buffers i).Terminated
  /-- The buffers that are not in use are zero. -/
  zero : ∀ i : Fin 8, count ≤ i → (buffers i).bytes = List.replicate size 0
  /-- No name is empty. -/
  ne_nil : ∀ name ∈ usedNames count buffers, name ≠ []
  /-- No name has a comma. -/
  comma_not_mem : ∀ name ∈ usedNames count buffers, comma ∉ name
  /-- No two names are the same. -/
  nodup : (usedNames count buffers).Nodup

/-- An empty list is sound. -/
theorem soundNames_zero (hsize : 0 < size) : SoundNames 0 fun _ => CharArray.zero size where
  count_le := Nat.zero_le _
  terminated := fun _ => List.mem_replicate.mpr ⟨hsize.ne', rfl⟩
  zero := fun _ _ => rfl
  ne_nil := by simp [usedNames]
  comma_not_mem := by simp [usedNames]
  nodup := by simp [usedNames]

variable {buffers : Fin 8 → CharArray size} {names : List Bytes}

/-- The names in buffers that hold them are these names. -/
theorem HoldsNames.usedNames_eq (h : HoldsNames buffers names) (hcount : names.length ≤ 8)
    (h0 : ∀ name ∈ names, 0 ∉ name) : usedNames names.length buffers = names := by
  refine usedNames_eq_of_getElem rfl hcount fun j hj => ?_
  rw [h.cstr_eq h0, List.getD_eq_getElem _ _ hj]

/-- Buffers that hold good names are a sound list. -/
theorem soundNames_of_holds (hsize : 0 < size) (h : HoldsNames buffers names)
    (hfit : NamesFit size names) (h0 : ∀ name ∈ names, 0 ∉ name)
    (hcomma : ∀ name ∈ names, comma ∉ name) : SoundNames names.length buffers := by
  have hused := h.usedNames_eq hfit.1 h0
  refine ⟨hfit.1, ?_, ?_, ?_, ?_, ?_⟩
  · exact h.terminated hsize fun name hname => (hfit.2.1 name hname).2
  · intro i hi
    rw [h i, List.getD_eq_default _ _ hi, List.nil_append, List.length_nil, Nat.sub_zero]
  · rw [hused]
    exact fun name hname => (hfit.2.1 name hname).1
  · rwa [hused]
  · rw [hused]
    exact hfit.2.2

/-! ### Configurations -/

/-- A configuration with sound lists and strings. -/
structure Sound (config : AppConfig) : Prop where
  /-- `process_name` is terminated. -/
  processName : config.processName.Terminated
  /-- The process names are sound. -/
  processNames : SoundNames config.processNameCount.toNat config.processNames
  /-- The network interfaces are sound. -/
  networkInterfaces : SoundNames config.networkInterfaceCount.toNat config.networkInterfaces
  /-- And they are trimmed. -/
  trimmed : ∀ name ∈ usedNames config.networkInterfaceCount.toNat config.networkInterfaces,
    trim name = name
  /-- `notification_enabled` is 0 or 1. -/
  notificationEnabled : config.notificationEnabled ≤ 1
  /-- `notification_command` is terminated. -/
  notificationCommand : config.notificationCommand.Terminated
  /-- `log_file` is terminated. -/
  logFile : config.logFile.Terminated
  /-- `log_file` is not empty. -/
  logFile_ne_nil : config.logFile.cstr ≠ []

/-- The defaults are sound, whatever they are written over. -/
theorem sound_defaults (config : AppConfig) : Sound (configSetDefaults config) where
  processName := CharArray.terminated_store _ (by decide)
  processNames := soundNames_zero (by decide)
  networkInterfaces := soundNames_zero (by decide)
  trimmed := by simp [configSetDefaults, usedNames]
  notificationEnabled := (by decide : (0 : UInt32) ≤ 1)
  notificationCommand := CharArray.terminated_store _ (by decide)
  logFile := CharArray.terminated_store _ (by decide)
  logFile_ne_nil := by
    show (config.logFile.store (ascii "logs/edgesentinel.log")).cstr ≠ []
    rw [CharArray.cstr_store _ (by decide) (by decide)]
    decide

/-- An accepted list of process names leaves a sound configuration. -/
theorem Sound.processNames_set (h : Sound config) (h0 : 0 ∉ value)
    (hset : (configSetValue config Key.processNames.name value).1 = .ok) :
    Sound (configSetValue config Key.processNames.name value).2 := by
  obtain ⟨hnames, hsets⟩ := setsProcessNames h0 hset
  generalize (configSetValue config Key.processNames.name value).2 = config' at hsets ⊢
  have hsound := soundNames_of_holds (by decide) hsets.holds hnames.fit (zero_not_mem_pieces h0)
    hnames.comma_not_mem
  rw [← hsets.count] at hsound
  have hname := hsets.terminated.2
  have hframe := hsets.frame
  generalize config'.processNames = processNames at hsound hframe
  generalize config'.processNameCount = count at hsound hframe
  generalize config'.processName = processName at hname hframe
  subst hframe
  exact { h with processName := hname, processNames := hsound }

/-- An accepted list of network interfaces leaves a sound configuration. -/
theorem Sound.networkInterfaces_set (h : Sound config) (h0 : 0 ∉ value)
    (hset : (configSetValue config Key.networkInterfaces.name value).1 = .ok) :
    Sound (configSetValue config Key.networkInterfaces.name value).2 := by
  obtain ⟨hfit, hsets⟩ := setsNetworkInterfaces h0 hset
  generalize (configSetValue config Key.networkInterfaces.name value).2 = config' at hsets ⊢
  have hzero : ∀ name ∈ (pieces value).map trim, 0 ∉ name := by
    intro name hname
    obtain ⟨piece, hpiece, rfl⟩ := List.mem_map.mp hname
    exact zero_not_mem_trim (zero_not_mem_pieces h0 piece hpiece)
  have hcomma : ∀ name ∈ (pieces value).map trim, comma ∉ name := by
    intro name hname hmem
    obtain ⟨piece, hpiece, rfl⟩ := List.mem_map.mp hname
    refine sep_not_mem_of_mem_splitOn hpiece ?_
    exact (List.dropWhile_suffix _).subset ((List.rdropWhile_prefix _ _).subset hmem)
  have hsound := soundNames_of_holds (by decide) hsets.holds hfit hzero hcomma
  have htrimmed : ∀ name ∈ usedNames ((pieces value).map trim).length config'.networkInterfaces,
      trim name = name := by
    rw [hsets.holds.usedNames_eq hfit.1 hzero]
    intro name hname
    obtain ⟨piece, -, rfl⟩ := List.mem_map.mp hname
    exact trim_trim piece
  rw [← hsets.count] at hsound htrimmed
  have hframe := hsets.frame
  generalize config'.networkInterfaces = networkInterfaces at hsound htrimmed hframe
  generalize config'.networkInterfaceCount = count at hsound htrimmed hframe
  subst hframe
  exact { h with networkInterfaces := hsound, trimmed := htrimmed }

/-- **An assignment** of a text that is not empty keeps a configuration sound. -/
theorem sound_configSetValue (h : Sound config) (key : Bytes) (h0 : 0 ∉ value)
    (hne : value ≠ []) : Sound (configSetValue config key value).2 := by
  obtain ⟨k, rfl, hbranch⟩ | hunknown := configSetValue_cases key
  swap
  · rw [hunknown]
    exact h
  by_cases hset : (configSetValue config k.name value).1 = .ok
  swap
  · rw [configSetValue_name_invalid h0 hset]
    exact h
  cases k
  case processNames => exact h.processNames_set h0 hset
  case networkInterfaces => exact h.networkInterfaces_set h0 hset
  all_goals
    rw [hbranch]
    dsimp only [Key.branch]
  case monitorInterval | processPid => exact setUnsignedInt_induction Sound h fun _ => { h with }
  case processName =>
    exact setString_induction Sound h fun hlt =>
      { h with processName := CharArray.terminated_store _ hlt }
  case notificationCommand =>
    exact setString_induction Sound h fun hlt =>
      { h with notificationCommand := CharArray.terminated_store _ hlt }
  case logFile =>
    refine setString_induction Sound h fun hlt =>
      { h with logFile := CharArray.terminated_store _ hlt, logFile_ne_nil := ?_ }
    rwa [CharArray.cstr_store _ h0 hlt]
  case notificationEnabled =>
    refine setNotificationEnabled_induction Sound h fun v hv => { h with notificationEnabled := ?_ }
    rw [UInt32.le_iff_toNat_le, UInt32.toNat_ofNat']
    exact (Nat.mod_le _ _).trans hv
  case logMaxSize => exact setLogMaxSize_induction Sound h fun _ => { h with }
  all_goals exact setDouble_induction Sound h fun _ => { h with }

/-! ### What is left to the validator -/

/-- What may be wrong with a sound configuration. -/
def ConfigProblem.LeftToValidator : ConfigProblem → Prop
  | .monitorInterval | .processPid | .notificationCommandMissing | .warningThreshold _
  | .criticalThreshold _ | .thresholdOrder _ | .logMaxSize => True
  | _ => False

theorem reject_eq_some {bad : Prop} [Decidable bad] {problem problem' : ConfigProblem} :
    reject bad problem = some problem' ↔ bad ∧ problem = problem' := by
  unfold reject
  split_ifs with h <;> simp [h]

/-- A name in use, in the list of them. -/
theorem getElem?_usedNames {count : ℕ} {i : Fin 8} (hi : i < count) :
    (usedNames count buffers)[(i : ℕ)]? = some (buffers i).cstr := by
  rw [usedNames, List.getElem?_take_of_lt hi, List.getElem?_ofFn]
  simp

/-- A name in use does not begin with a NUL. -/
theorem SoundNames.head?_ne {count : ℕ} (h : SoundNames count buffers) {i : Fin 8}
    (hi : i < count) : (buffers i).bytes.head? ≠ some 0 := by
  rw [ne_eq, head?_eq_zero_iff (h.terminated i)]
  exact h.ne_nil _ (List.mem_of_getElem? (getElem?_usedNames hi))

/-- An earlier name in use is a different one. -/
theorem SoundNames.cstr_ne {count : ℕ} (h : SoundNames count buffers) {i j : Fin 8}
    (hi : i < count) (hj : j < i) : (buffers j).cstr ≠ (buffers i).cstr := by
  intro he
  have hget : (usedNames count buffers)[(i : ℕ)]? = some (buffers i).cstr := getElem?_usedNames hi
  rw [← he, ← getElem?_usedNames (lt_trans hj hi)] at hget
  have hlt : (j : ℕ) < (usedNames count buffers).length :=
    (List.getElem?_eq_some_iff.mp (getElem?_usedNames (lt_trans hj hi))).1
  have := (List.getElem?_inj hlt h.nodup).mp hget.symm
  omega

theorem validateProcessName_of_sound (h : Sound config) (i : Fin maxProcessNames) :
    validateProcessName config i = none := by
  unfold validateProcessName
  split_ifs with hi
  · simp [h.processNames.head?_ne hi, h.processNames.terminated i]
  · rfl

theorem validateNetworkInterface_of_sound (h : Sound config) (i : Fin maxNetworkInterfaces) :
    validateNetworkInterface config i = none := by
  unfold validateNetworkInterface
  split_ifs with hi
  · have hne : ¬ ∃ j < i, (config.networkInterfaces j).cstr = (config.networkInterfaces i).cstr := by
      rintro ⟨j, hj, he⟩
      exact h.networkInterfaces.cstr_ne hi hj he
    simp [h.networkInterfaces.head?_ne hi, h.networkInterfaces.terminated i, hne]
  · rfl

/-- What may be wrong in one of two checks. -/
theorem orElse_induction {P : ConfigProblem → Prop} {a b : Option ConfigProblem}
    (ha : ∀ p, a = some p → P p) (hb : ∀ p, b = some p → P p) :
    ∀ p, (a <|> b) = some p → P p := by
  intro p hp
  cases a with
  | none => exact hb p hp
  | some p' => exact ha p hp

theorem reject_induction {P : ConfigProblem → Prop} {bad : Prop} [Decidable bad]
    {problem : ConfigProblem} (h : bad → P problem) : ∀ p, reject bad problem = some p → P p := by
  intro p hp
  obtain ⟨hbad, rfl⟩ := reject_eq_some.mp hp
  exact h hbad

theorem validateThresholdPair_leftToValidator (resource : Bytes) (warning critical : Double) :
    ∀ p, validateThresholdPair resource warning critical = some p → p.LeftToValidator :=
  orElse_induction (reject_induction fun _ => trivial) <|
    orElse_induction (reject_induction fun _ => trivial) (reject_induction fun _ => trivial)

theorem validateProcessThresholdPair_leftToValidator (resource : Bytes)
    (warning critical : Double) :
    ∀ p, validateProcessThresholdPair resource warning critical = some p → p.LeftToValidator :=
  orElse_induction (reject_induction fun _ => trivial) <|
    orElse_induction (reject_induction fun _ => trivial) (reject_induction fun _ => trivial)

/-- **The validator** complains about nothing else in a sound configuration. -/
theorem leftToValidator_of_sound (h : Sound config) :
    ∀ p, configValidate config = some p → p.LeftToValidator := by
  have hnames : (List.finRange maxProcessNames).findSome? (validateProcessName config) = none :=
    List.findSome?_eq_none_iff.mpr fun i _ => validateProcessName_of_sound h i
  have hinterfaces :
      (List.finRange maxNetworkInterfaces).findSome? (validateNetworkInterface config) = none :=
    List.findSome?_eq_none_iff.mpr fun i _ => validateNetworkInterface_of_sound h i
  have hlog : config.logFile.bytes.head? ≠ some 0 := by
    rw [ne_eq, head?_eq_zero_iff h.logFile]
    exact h.logFile_ne_nil
  unfold configValidate
  rw [hnames, hinterfaces]
  refine orElse_induction (reject_induction fun _ => trivial) ?_
  refine orElse_induction (reject_induction fun _ => trivial) ?_
  refine orElse_induction (reject_induction fun hbad => ?_) ?_
  · exact absurd hbad (not_lt.mpr h.processNames.count_le)
  refine orElse_induction (fun _ hp => by cases hp) ?_
  refine orElse_induction (reject_induction fun hbad => ?_) ?_
  · exact absurd hbad (not_lt.mpr h.networkInterfaces.count_le)
  refine orElse_induction (fun _ hp => by cases hp) ?_
  refine orElse_induction (reject_induction fun hbad => ?_) ?_
  · exact absurd hbad (UInt32.not_lt.mpr h.notificationEnabled)
  refine orElse_induction (reject_induction fun hbad => absurd h.notificationCommand hbad) ?_
  refine orElse_induction (reject_induction fun _ => trivial) ?_
  refine orElse_induction (validateThresholdPair_leftToValidator _ _ _) ?_
  refine orElse_induction (validateProcessThresholdPair_leftToValidator _ _ _) ?_
  refine orElse_induction (validateProcessThresholdPair_leftToValidator _ _ _) ?_
  refine orElse_induction (validateThresholdPair_leftToValidator _ _ _) ?_
  refine orElse_induction (validateThresholdPair_leftToValidator _ _ _) ?_
  refine orElse_induction (reject_induction fun hbad => absurd hbad hlog) ?_
  exact reject_induction fun _ => trivial

/-- **Loading a file** keeps a configuration sound, whatever is in the file. So if it is loaded
over the defaults, the validator can complain about `monitor_interval`, `process_pid`, a pair of
thresholds, a missing notification command, or `log_max_size`, and about nothing else. -/
theorem sound_configLoad :
    (∀ config file, Sound config → Sound (configLoad file config).2) ∧
    ∀ memory file p, configValidate (configLoad file (configSetDefaults memory)).2 = some p →
      p.LeftToValidator := by
  have hload : ∀ config file, Sound config → Sound (configLoad file config).2 := by
    intro config file h
    exact configLoad_induction (P := Sound)
      (fun _ key _ h0 hne hc => sound_configSetValue hc key h0 hne) h file
  refine ⟨hload, fun memory file p hp => ?_⟩
  exact leftToValidator_of_sound (hload _ file (sound_defaults memory)) p hp

end EdgeSentinel.Config
