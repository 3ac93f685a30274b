import EdgeSentinel.Config.OneLine
import EdgeSentinel.Monitor.Restart
import EdgeSentinel.Monitor.Rounds

/-!
# The configuration in effect

`main` has two records: `config`, which is in effect, and `reloaded_config`, into which every
SIGHUP reads the file, over the defaults and over what the attempt before has left there. A file
that is refused at the start is followed by the defaults, one that is refused later by the
configuration before it.

## The model

The abstract view has no records, and no state of the loop: of the start and of the reloads it
knows what they are given.

* `settingFrom` — what a file sets a key to: what the last of its lines that set it says, and
  otherwise the default.
* `AcceptedFile` — a file that can be loaded over the defaults, and is valid then.
* `startFile`, `appliedFile?` — the file that the start, and a reload, put in effect.
* `fileInEffect` — the one that was put in effect last.

## What is proved

* `appliesReload_iff` — whether a reload is applied depends on nothing that happened before it.
* `config_inEffect` — **in every run**, at every turn, the record in effect holds the settings of
  the file that was put in effect last, key by key.
-/

namespace EdgeSentinel.Monitor

open CLib Config Trace Trace.Traced

/-! ### Files -/

/-- What `config_set_defaults` sets a key to. -/
def defaultSetting : Key → Setting
  | .monitorInterval => .number 1
  | .processPid => .number 0
  | .processName => .text []
  | .processNames => .names []
  | .networkInterfaces => .names []
  | .notificationEnabled => .number 0
  | .notificationCommand => .text []
  | .cpuWarningThreshold => .double (.finite 70)
  | .cpuCriticalThreshold => .double (.finite 90)
  | .processCpuWarningThreshold => .double (.finite 70)
  | .processCpuCriticalThreshold => .double (.finite 90)
  | .processMemoryWarningThresholdMib => .double (.finite 100)
  | .processMemoryCriticalThresholdMib => .double (.finite 200)
  | .memoryWarningThreshold => .double (.finite 75)
  | .memoryCriticalThreshold => .double (.finite 90)
  | .diskWarningThreshold => .double (.finite 80)
  | .diskCriticalThreshold => .double (.finite 90)
  | .logFile => .text (ascii "logs/edgesentinel.log")
  | .logMaxSize => .number 1048576

/-- The assignments of a file. -/
def assignmentsOf (file : Option ConfigFile) : List (Bytes × Bytes) :=
  file.elim [] fun file => assignments file.lines

/-- What a file sets a key to. -/
def settingFrom (file : Option ConfigFile) (k : Key) : Setting :=
  (((assignmentsOf file).filterMap (writes k)).getLast?).getD (defaultSetting k)

/-- The record of a file. -/
def fileConfig (file : Option ConfigFile) : AppConfig :=
  (configLoad file (configSetDefaults .zero)).2

/-- A file that can be loaded over the defaults, and is valid then. -/
def AcceptedFile (file : ConfigFile) : Prop :=
  (configLoad (some file) (configSetDefaults .zero)).1 = true ∧
    configValidate (fileConfig (some file)) = none

instance (file : ConfigFile) : Decidable (AcceptedFile file) :=
  inferInstanceAs (Decidable (_ ∧ _))

/-- The file that the start puts in effect, if not the defaults. -/
def startFile (calls : StartCalls) : Option ConfigFile := calls.configFile.filter AcceptedFile

/-- The file that a reload puts in effect, if any: one that is accepted, if the logger can be set
up for it, the network can be read and the clock too. -/
def appliedFile? (calls : ReloadCalls) : Option ConfigFile :=
  calls.configFile.filter fun file => AcceptedFile file ∧
    (loggerInit (mkdirCalls calls.mkdir) (fileConfig (some file)).logFile.cstr
      (fileConfig (some file)).logMaxSize 0 0).succeeded = true ∧
    (readNetworkInfoFiltered (fileConfig (some file)) calls.procNetDev).isSome = true ∧
    calls.clock.isSome = true

/-- The file in effect behind the reload of a turn. -/
def fileAfter (file : Option ConfigFile) (it : Iteration) : Option ConfigFile :=
  (it.reload.bind appliedFile?).or file

/-- The file that was put in effect last, by the start or in one of these turns. -/
def fileInEffect (calls : StartCalls) (its : List Iteration) : Option ConfigFile :=
  its.foldl fileAfter (startFile calls)

/-! ### Records of files -/

variable {config config' : AppConfig} {file : Option ConfigFile} {format : OutputFormat}
  {s s' s₀ : MainState} {its : List Iteration} {c : MainState × Iteration}

/-- The same configuration has the same settings. -/
theorem setting_same (h : SameConfig config config') (k : Key) :
    setting config' k = setting config k := by
  obtain ⟨hname, hcommand, hlog⟩ := h
  cases k with
  | processName => exact congrArg Setting.text hname.cstr_eq
  | notificationCommand => exact congrArg Setting.text hcommand.cstr_eq
  | logFile => exact congrArg Setting.text hlog.cstr_eq
  | _ => rfl

/-- The defaults are set. -/
theorem setting_defaults (config : AppConfig) (k : Key) :
    setting (configSetDefaults config) k = defaultSetting k := by
  have hempty : ∀ {size : ℕ} (a : CharArray size), 0 < size → (a.store []).cstr = [] :=
    fun a h => CharArray.cstr_store a List.not_mem_nil h
  cases k with
  | processName => exact congrArg Setting.text (hempty config.processName (by decide))
  | notificationCommand =>
    exact congrArg Setting.text (hempty config.notificationCommand (by decide))
  | logFile =>
    exact congrArg Setting.text (CharArray.cstr_store config.logFile (by decide) (by decide))
  | processNames => exact congrArg Setting.names (by simp [configSetDefaults, usedNames])
  | networkInterfaces => exact congrArg Setting.names (by simp [configSetDefaults, usedNames])
  | _ => rfl

/-- The settings of a file are those of its record. -/
theorem setting_fileConfig (h : ∀ f, file = some f → AcceptedFile f) (k : Key) :
    setting (fileConfig file) k = settingFrom file k := by
  cases file with
  | none => exact setting_defaults .zero k
  | some file =>
    obtain ⟨hloaded, -⟩ := h file rfl
    obtain ⟨haccepted, hfold, -⟩ := configLoad_lines file (configSetDefaults .zero)
    have hassigned := accepted_of_mem_assignments (fun _ => ConfigFile.zero_not_mem)
      (haccepted.mp hloaded).2
    rw [fileConfig, hfold hloaded, setting_foldl (fun a ha => (hassigned a ha).1)
      fun a ha => (hassigned a ha).2, setting_defaults]
    rfl

/-- A file makes the same of any record. -/
theorem acceptedFile_iff (file : ConfigFile) (config : AppConfig) :
    AcceptedFile file ↔ (configLoad (some file) (configSetDefaults config)).1 = true ∧
      configValidate (configLoad (some file) (configSetDefaults config)).2 = none := by
  obtain ⟨hload, hsame⟩ := sameConfig_configLoad (some file) .zero config
  rw [AcceptedFile, fileConfig, hload, configValidate_eq hsame]

/-- The start puts its file in effect, or the defaults. -/
theorem startConfig_inEffect (calls : StartCalls) (memory : AppConfig) :
    SameConfig (fileConfig (startFile calls)) (startConfig memory calls.configFile) := by
  have hdefaults : ∀ config : AppConfig, SameConfig (fileConfig none) (configSetDefaults config) :=
    sameConfig_defaults .zero
  have hvalid : ∀ config : AppConfig, configValidate (configSetDefaults config) = none :=
    configValidate_defaults
  unfold startFile startConfig
  cases hfile : calls.configFile with
  | none =>
    dsimp only [Option.filter]
    show SameConfig (fileConfig none) (if configValidate (configSetDefaults memory) ≠ none then _
      else configSetDefaults memory)
    rw [if_neg (not_not.mpr (hvalid memory))]
    exact hdefaults memory
  | some file =>
    obtain ⟨-, -, hrefused⟩ := configLoad_lines file (configSetDefaults memory)
    by_cases haccepted : AcceptedFile file
    · obtain ⟨-, hsame⟩ := sameConfig_configLoad (some file) .zero memory
      rw [Option.filter_some_pos (by simpa using haccepted)]
      dsimp only
      rw [if_neg (not_not.mpr ((acceptedFile_iff file memory).mp haccepted).2)]
      exact hsame
    · rw [Option.filter_some_neg (by simpa using haccepted)]
      dsimp only
      split_ifs with hinvalid
      · exact hdefaults _
      · -- a file that is valid but not accepted could not be loaded
        rw [acceptedFile_iff file memory, not_and'] at haccepted
        rw [hrefused (eq_false_of_ne_true (haccepted (not_not.mp hinvalid)))]
        exact hdefaults memory

/-! ### Reloads -/

/-- Whether `logger_init` succeeds does not depend on the limit before. -/
theorem loggerInit_succeeded {σ : Type} (mkdir : Mkdir σ) (path : Bytes)
    (maxSize limit limit' : UInt64) (disk : σ) :
    (loggerInit mkdir path maxSize limit disk).succeeded =
      (loggerInit mkdir path maxSize limit' disk).succeeded := by
  unfold loggerInit
  split_ifs
  · rfl
  · rfl
  · rfl

/-- A reload is applied if its file is accepted, the logger can be set up, and the network and
the clock can be read. -/
theorem attemptReload_eq_none (calls : ReloadCalls) (s : MainState) :
    (attemptReload calls s).1 = none ↔ ReloadAccepted calls s ∧
      (loggerInit (mkdirCalls calls.mkdir) (reloadConfig calls s).logFile.cstr
        (reloadConfig calls s).logMaxSize s.currentLogMaxSize 0).succeeded = true ∧
      (readNetworkInfoFiltered (reloadConfig calls s) calls.procNetDev).isSome = true ∧
      calls.clock.isSome = true := by
  unfold attemptReload ReloadAccepted reloadConfig
  dsimp only
  generalize configLoad calls.configFile (configSetDefaults s.reloadedConfig) = loaded
  obtain ⟨loaded, config⟩ := loaded
  by_cases hload : loaded = true
  swap
  · simp [hload]
  by_cases hvalid : configValidate config = none
  swap
  · simp [hload, hvalid]
  rw [if_neg (not_not.mpr hload), if_neg (not_not.mpr hvalid)]
  by_cases hlogger : (loggerInit (mkdirCalls calls.mkdir) config.logFile.cstr config.logMaxSize
    s.currentLogMaxSize 0).succeeded = true
  swap
  · simp [hlogger]
  rw [if_neg (not_not.mpr hlogger)]
  cases hnetwork : readNetworkInfoFiltered config calls.procNetDev with
  | none => simp
  | some network =>
    cases hclock : calls.clock with
    | none => simp
    | some time => simp [hload, hvalid, hlogger]

/-- What a reload makes of its file is the record of the file. -/
theorem reloadConfig_inEffect (calls : ReloadCalls) (s : MainState) :
    SameConfig (fileConfig calls.configFile) (reloadConfig calls s) :=
  (sameConfig_configLoad calls.configFile .zero s.reloadedConfig).2

/-- **Whether a reload is applied** does not depend on what happened before it. -/
theorem attemptReload_eq_none_iff (calls : ReloadCalls) (s : MainState) :
    (attemptReload calls s).1 = none ↔ (appliedFile? calls).isSome = true := by
  have hsame := reloadConfig_inEffect calls s
  have hlog : (reloadConfig calls s).logFile.cstr = (fileConfig calls.configFile).logFile.cstr :=
    Setting.text.inj (setting_same hsame .logFile)
  rw [attemptReload_eq_none, hlog, hsame.congr AppConfig.logMaxSize fun _ _ _ _ => rfl,
    hsame.congr (readNetworkInfoFiltered · calls.procNetDev) fun _ _ _ _ => rfl,
    loggerInit_succeeded _ _ _ _ 0, appliedFile?, Option.isSome_filter]
  unfold ReloadAccepted reloadConfig
  cases calls.configFile with
  | none => simp [configLoad]
  | some file =>
    rw [← acceptedFile_iff file s.reloadedConfig, Option.any_some, decide_eq_true_iff]

/-- **A turn applies a reload** exactly if what it is given lets it. -/
theorem appliesReload_iff (s : MainState) (it : Iteration) :
    AppliesReload s it ↔ (it.reload.bind appliedFile?).isSome = true := by
  cases hreload : it.reload with
  | none => simp [AppliesReload, hreload]
  | some calls => simp [AppliesReload, hreload, attemptReload_eq_none_iff]

/-- What a reload applies is its file. -/
theorem appliedFile?_eq {calls : ReloadCalls} {file : ConfigFile}
    (h : appliedFile? calls = some file) : calls.configFile = some file ∧ AcceptedFile file := by
  obtain ⟨hfile, happlied⟩ := Option.filter_eq_some_iff.mp h
  exact ⟨hfile, (of_decide_eq_true happlied).1⟩

/-- **In front of a round**, the file in effect is the one that was put in effect last. -/
theorem reloadIfRequested_inEffect (hconfig : SameConfig (fileConfig file) s.config)
    {reload : Option ReloadCalls} (h : (reloadIfRequested reload s).result = .ok s') :
    SameConfig (fileConfig ((reload.bind appliedFile?).or file)) s'.config := by
  cases reload with
  | none =>
    obtain rfl := Except.ok.inj h
    exact hconfig
  | some calls =>
    obtain ⟨step, hstep, hkeep, -⟩ | ⟨-, s₁, hstep, hread, rfl⟩ := reload_ok h
    · have hnot : appliedFile? calls = none := by
        have hiff := attemptReload_eq_none_iff calls s
        rw [hstep] at hiff
        simpa using hiff
      rw [Option.bind_some, hnot, Option.none_or, hkeep]
      exact hconfig
    · obtain ⟨file', hfile⟩ := Option.isSome_iff_exists.mp
        ((attemptReload_eq_none_iff calls s).mp (congrArg Prod.fst hstep))
      rw [Option.bind_some, hfile, Option.some_or, ← (appliedFile?_eq hfile).1]
      show SameConfig _ s₁.reloadedConfig
      rw [hread]
      exact reloadConfig_inEffect calls s

/-! ### Runs -/

/-- The file in effect is accepted, if there is one. -/
theorem acceptedFile_reload {reload : Option ReloadCalls}
    (h : ∀ f, file = some f → AcceptedFile f) :
    ∀ f, (reload.bind appliedFile?).or file = some f → AcceptedFile f := by
  intro f hf
  obtain hf | ⟨-, hf⟩ := Option.or_eq_some_iff.mp hf
  · obtain ⟨calls, -, hf⟩ := Option.bind_eq_some_iff.mp hf
    exact (appliedFile?_eq hf).2
  · exact h f hf

/-- The record in effect is that of a file, which is accepted, or of none. -/
structure InEffect (file : Option ConfigFile) (config : AppConfig) : Prop where
  /-- The file is accepted. -/
  accepted : ∀ f, file = some f → AcceptedFile f
  /-- The record is that of the file. -/
  same : SameConfig (fileConfig file) config

/-- Its settings are those of the file. -/
theorem InEffect.setting_eq (h : InEffect file config) (k : Key) :
    setting config k = settingFrom file k := by
  rw [setting_same h.same, setting_fileConfig h.accepted]

theorem start_inEffect {calls : StartCalls} (h : (start calls).result = .ok s) :
    InEffect (startFile calls) s.config := by
  obtain ⟨_, _, _, rfl⟩ := start_ok h
  refine ⟨fun f hf => ?_, startConfig_inEffect calls calls.memory.config⟩
  exact of_decide_eq_true (Option.filter_eq_some_iff.mp hf).2

theorem InEffect.reload (hconfig : InEffect file s.config) {reload : Option ReloadCalls}
    (h : (reloadIfRequested reload s).result = .ok s') :
    InEffect ((reload.bind appliedFile?).or file) s'.config :=
  ⟨acceptedFile_reload hconfig.accepted, reloadIfRequested_inEffect hconfig.same h⟩

/-- A turn leaves the file in effect that it has put in effect. -/
theorem iteration_inEffect (format : OutputFormat) (file : Option ConfigFile) (s : MainState)
    (it : Iteration) (s' : MainState) (h : Operating s ∧ InEffect file s.config)
    (hs' : (iteration format s it).result = .ok s') :
    Operating s' ∧ InEffect (fileAfter file it) s'.config := by
  obtain ⟨hop, hconfig⟩ := h
  refine ⟨iteration_operating hop hs', ?_⟩
  obtain ⟨t, ht, hround⟩ := result_bind_ok.mp hs'
  have hop' := reloadIfRequested_operating hop ht
  rw [(round_ok hop'.one_le hop'.count_le hround).config]
  exact hconfig.reload ht

/-- **The invariant**: the record in effect at a turn is that of the file that was put in effect
last. -/
theorem inEffect_of_taken {calls : StartCalls} (hs₀ : (start calls).result = .ok s₀) {n : ℕ}
    (hc : (taken (iteration format) s₀ its)[n]? = some c) :
    InEffect (fileInEffect calls (its.take n)) c.1.config ∧ its[n]? = some c.2 := by
  obtain ⟨⟨-, hconfig⟩, hit⟩ := foldl_of_getElem?_taken
    (I := fun file s => Operating s ∧ InEffect file s.config)
    (iteration_inEffect format) ⟨start_operating hs₀, start_inEffect hs₀⟩ hc
  exact ⟨hconfig, hit⟩

/-- So is the one behind all of the turns. -/
theorem inEffect_of_run {calls : StartCalls} (hs₀ : (start calls).result = .ok s₀)
    (hs : (Traced.run (iteration format) s₀ its).result = .ok s) :
    InEffect (fileInEffect calls its) s.config :=
  (foldl_of_run (I := fun file s => Operating s ∧ InEffect file s.config)
    (iteration_inEffect format) ⟨start_operating hs₀, start_inEffect hs₀⟩ hs).2

/-- So is the one behind the reload of the turn. -/
theorem inEffect_of_reload {calls : StartCalls} (hs₀ : (start calls).result = .ok s₀) {n : ℕ}
    (hc : (taken (iteration format) s₀ its)[n]? = some c)
    (hs : (reloadIfRequested c.2.reload c.1).result = .ok s) :
    InEffect (fileInEffect calls (its.take (n + 1))) s.config := by
  obtain ⟨hconfig, hit⟩ := inEffect_of_taken hs₀ hc
  rw [List.take_add_one, hit, Option.toList_some, fileInEffect, List.foldl_concat]
  exact hconfig.reload hs

/-- **The configuration in effect**, in every run and at every turn: behind the reload of the turn
each key has what the file says that was put in effect last, by the start or by a reload up to
this one, and in front of it what the file says that was put in effect last before. Which files
are put in effect depends on what the start and the reloads are given, one by one, and on nothing
else. -/
theorem config_inEffect (format : OutputFormat) (calls : StartCalls) (its : List Iteration)
    (s₀ : MainState) (hs₀ : (start calls).result = .ok s₀) :
    ∀ n c, (taken (iteration format) s₀ its)[n]? = some c →
      (∀ k, setting c.1.config k = settingFrom (fileInEffect calls (its.take n)) k) ∧
      (AppliesReload c.1 c.2 ↔ (c.2.reload.bind appliedFile?).isSome = true) ∧
      ∀ s, (reloadIfRequested c.2.reload c.1).result = .ok s →
        ∀ k, setting s.config k = settingFrom (fileInEffect calls (its.take (n + 1))) k := by
  intro n c hc
  refine ⟨(inEffect_of_taken hs₀ hc).1.setting_eq, appliesReload_iff c.1 c.2, fun s hs => ?_⟩
  exact (inEffect_of_reload hs₀ hc hs).setting_eq

/-- A turn with a new file that is applied, and one with a file that is refused. -/
def reloadingTurns : List Iteration :=
  [⟨some (quietReload (ascii "monitor_interval=5\n") (quietProc [])), quietRound (quietProc []) 6⟩,
    ⟨some (quietReload (ascii "monitor_interval=x\n") (quietProc [])), quietRound (quietProc []) 7⟩]

/-- What the second file says stays in effect, and nothing of the first one. -/
theorem config_inEffect_twice :
    ∃ s₀ c, (taken (iteration .json) s₀ reloadingTurns)[1]? = some c ∧
      setting c.1.config .monitorInterval = .number 5 ∧
      setting c.1.config .processNames = .names [] ∧
      ∀ s, (reloadIfRequested c.2.reload c.1).result = .ok s →
        setting s.config .monitorInterval = .number 5 := by
  have hok : ((start (quietStart .zero (ascii "process_names=a\n") (quietProc []))).result.map
      fun s₀ => ((taken (iteration .json) s₀ reloadingTurns)[1]?).isSome) = .ok true := by
    decide +kernel
  obtain ⟨s₀, hs₀, hsome⟩ := ok_of_map_ok hok
  obtain ⟨c, hc⟩ := Option.isSome_iff_exists.mp hsome
  have hbefore : settingFrom (fileInEffect (quietStart .zero (ascii "process_names=a\n")
      (quietProc [])) (reloadingTurns.take 1)) .monitorInterval = .number 5 ∧
      settingFrom (fileInEffect (quietStart .zero (ascii "process_names=a\n")
      (quietProc [])) (reloadingTurns.take 1)) .processNames = .names [] := by decide +kernel
  have hafter : settingFrom (fileInEffect (quietStart .zero (ascii "process_names=a\n")
      (quietProc [])) (reloadingTurns.take 2)) .monitorInterval = .number 5 := by decide +kernel
  obtain ⟨hturn, -, hreload⟩ := config_inEffect .json
    (quietStart .zero (ascii "process_names=a\n") (quietProc [])) reloadingTurns s₀ hs₀ 1 c hc
  refine ⟨s₀, c, hc, (hturn _).trans hbefore.1, (hturn _).trans hbefore.2, fun s hs => ?_⟩
  exact (hreload s hs _).trans hafter

end EdgeSentinel.Monitor
