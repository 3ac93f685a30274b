import EdgeSentinel.Config.Fresh
import EdgeSentinel.Config.Lines
import EdgeSentinel.Memory.Footprint

/-!
# The order of lines

The lines of a file are assignments, and each assignment writes to the part of the record that
its key stands for. Only `process_names` writes to another part too, that of `process_name`. So
a file that sets no key twice means the same whatever the order of its lines, but for
`process_name` where it sets both.

## The model

* `Cell k` — what the record keeps for the key `k`, with all of its bytes; `cell` reads it.
* `Touches` — the cells that an assignment writes to.
* `fileText` — a file of lines, each ended by a newline.

## What is proved

* `footprint_assignment` — **an assignment writes to its cells only**, and looks at nothing else.
* `configLoad_of_perm` — what **the order of the lines** leaves alone.
-/

namespace EdgeSentinel.Config

open CLib Memory

/-! ### The cells of the record -/

/-- What the record keeps for a key. -/
def Cell : Key → Type
  | .monitorInterval | .processPid | .notificationEnabled => UInt32
  | .processName => CharArray processNameLength
  | .processNames => UInt32 × (Fin maxProcessNames → CharArray processNameLength)
  | .networkInterfaces =>
    UInt32 × (Fin maxNetworkInterfaces → CharArray networkInterfaceNameLength)
  | .notificationCommand => CharArray notificationCommandLength
  | .logFile => CharArray pathLength
  | .logMaxSize => UInt64
  | _ => Double

/-- What the record keeps for a key. -/
def cell (config : AppConfig) : ∀ k : Key, Cell k
  | .monitorInterval => config.monitorInterval
  | .processPid => config.processPid
  | .processName => config.processName
  | .processNames => (config.processNameCount, config.processNames)
  | .networkInterfaces => (config.networkInterfaceCount, config.networkInterfaces)
  | .notificationEnabled => config.notificationEnabled
  | .notificationCommand => config.notificationCommand
  | .cpuWarningThreshold => config.cpuWarningThreshold
  | .cpuCriticalThreshold => config.cpuCriticalThreshold
  | .processCpuWarningThreshold => config.processCpuWarningThreshold
  | .processCpuCriticalThreshold => config.processCpuCriticalThreshold
  | .processMemoryWarningThresholdMib => config.processMemoryWarningThresholdMib
  | .processMemoryCriticalThresholdMib => config.processMemoryCriticalThresholdMib
  | .memoryWarningThreshold => config.memoryWarningThreshold
  | .memoryCriticalThreshold => config.memoryCriticalThreshold
  | .diskWarningThreshold => config.diskWarningThreshold
  | .diskCriticalThreshold => config.diskCriticalThreshold
  | .logFile => config.logFile
  | .logMaxSize => config.logMaxSize

variable {config config' : AppConfig}

/-- The cells are the whole record. -/
theorem eq_of_cell_eq (h : ∀ k, cell config' k = cell config k) : config' = config := by
  obtain ⟨⟩ := config
  obtain ⟨⟩ := config'
  have hnames := Prod.mk.inj (h .processNames)
  have hinterfaces := Prod.mk.inj (h .networkInterfaces)
  rw [AppConfig.mk.injEq]
  exact ⟨h .monitorInterval, h .processPid, h .processName, hnames.2, hnames.1, hinterfaces.2,
    hinterfaces.1, h .notificationEnabled, h .notificationCommand, h .cpuWarningThreshold,
    h .cpuCriticalThreshold, h .processCpuWarningThreshold, h .processCpuCriticalThreshold,
    h .processMemoryWarningThresholdMib, h .processMemoryCriticalThresholdMib,
    h .memoryWarningThreshold, h .memoryCriticalThreshold, h .diskWarningThreshold,
    h .diskCriticalThreshold, h .logFile, h .logMaxSize⟩

/-- The assignment writes to the cell of this key. -/
def Touches (a : Bytes × Bytes) (k : Key) : Prop :=
  a.1 = k.name ∨ k = .processName ∧ a.1 = Key.processNames.name

/-- What an assignment does not write to stays. -/
theorem cell_applyAssignment_of_not_touches {a : Bytes × Bytes} {k : Key} (h : ¬ Touches a k) :
    cell (applyAssignment config a) k = cell config k := by
  obtain ⟨key, value⟩ := a
  unfold applyAssignment
  obtain ⟨j, rfl, hbranch⟩ | hunknown := configSetValue_cases key
  swap
  · rw [hunknown]
  unfold Touches at h
  rw [not_or] at h
  have hne : k ≠ j := fun he => h.1 (by rw [he])
  rw [hbranch]
  cases j
  all_goals dsimp only [Key.branch]
  case monitorInterval | processPid =>
    refine setUnsignedInt_induction (fun c => cell c k = cell config k) rfl fun v => ?_
    cases k <;> first | rfl | exact absurd rfl hne
  case processName | notificationCommand | logFile =>
    refine setString_induction (fun c => cell c k = cell config k) rfl fun hlt => ?_
    cases k <;> first | rfl | exact absurd rfl hne
  case processNames =>
    have hne' : k ≠ .processName := fun he => h.2 ⟨he, rfl⟩
    refine setProcessNames_induction (fun c => cell c k = cell config k) rfl fun _ _ _ => ?_
    cases k <;> first | rfl | exact absurd rfl hne | exact absurd rfl hne'
  case networkInterfaces =>
    refine setNames_induction (fun c => cell c k = cell config k) rfl (by decide) fun _ _ _ => ?_
    cases k <;> first | rfl | exact absurd rfl hne
  case notificationEnabled =>
    refine setNotificationEnabled_induction (fun c => cell c k = cell config k) rfl fun _ _ => ?_
    cases k <;> first | rfl | exact absurd rfl hne
  case logMaxSize =>
    refine setLogMaxSize_induction (fun c => cell c k = cell config k) rfl fun _ => ?_
    cases k <;> first | rfl | exact absurd rfl hne
  all_goals
    refine setDouble_induction (fun c => cell c k = cell config k) rfl fun v => ?_
    cases k <;> first | rfl | exact absurd rfl hne

/-- Two records that keep the same for a key. -/
def SameCell (k : Key) (config config' : AppConfig) : Prop := cell config' k = cell config k

/-- What it writes depends on what was in the cell. -/
theorem sameCell_applyAssignment {a : Bytes × Bytes} {k : Key} (h : Touches a k)
    (hcell : SameCell k config config') :
    SameCell k (applyAssignment config a) (applyAssignment config' a) := by
  obtain ⟨key, value⟩ := a
  unfold applyAssignment
  -- a string is stored over the one before
  have hstore : ∀ {n : ℕ} {b b' : CharArray n} (s : Bytes), b' = b → b'.store s = b.store s := by
    rintro n b b' s rfl
    rfl
  obtain hkey | ⟨rfl, hkey⟩ := h
  · change key = k.name at hkey
    subst hkey
    rw [configSetValue_name, configSetValue_name]
    cases k
    all_goals dsimp only [Key.branch]
    case monitorInterval | processPid =>
      exact And.right (setUnsignedInt_rel (R := SameCell _) hcell fun _ => rfl)
    case processName | notificationCommand | logFile =>
      exact And.right (setString_rel (R := SameCell _) hcell fun _ => hstore value hcell)
    case processNames =>
      exact And.right (setProcessNames_rel (R := SameCell _) hcell fun _ _ _ => rfl)
    case networkInterfaces =>
      exact And.right (setNames_rel (R := SameCell _) hcell (by decide) fun _ _ _ => rfl)
    case notificationEnabled =>
      exact And.right (setNotificationEnabled_rel (R := SameCell _) hcell fun _ => rfl)
    case logMaxSize =>
      exact And.right (setLogMaxSize_rel (R := SameCell _) hcell fun _ => rfl)
    all_goals exact And.right (setDouble_rel (R := SameCell _) hcell fun _ => rfl)
  · change key = Key.processNames.name at hkey
    subst hkey
    rw [configSetValue_name, configSetValue_name]
    exact And.right (setProcessNames_rel (R := SameCell _) hcell fun _ _ _ => hstore _ hcell)

/-- **An assignment** writes to its cells only, and looks at nothing else. -/
theorem footprint_assignment : Footprint cell applyAssignment Touches where
  frame := cell_applyAssignment_of_not_touches
  depends := sameCell_applyAssignment

/-! ### The order of assignments -/

/-- The keys that are set. -/
def keysOf (as : List (Bytes × Bytes)) : List Bytes := as.map Prod.fst

/-- `process_name` is set twice: by its own key, and by `process_names`. -/
def SetsBothNames (as : List (Bytes × Bytes)) : Prop :=
  Key.processName.name ∈ keysOf as ∧ Key.processNames.name ∈ keysOf as

/-- Two records that differ in `process_name` only. -/
def SameButName (config config' : AppConfig) : Prop :=
  config' = { config with processName := config'.processName }

theorem sameButName_of_cell_eq (h : ∀ k ≠ .processName, cell config' k = cell config k) :
    SameButName config config' := by
  refine eq_of_cell_eq fun k => ?_
  by_cases hk : k = .processName
  · subst hk
    rfl
  · rw [h k hk]
    cases k <;> first | rfl | exact absurd rfl hk

variable {as bs : List (Bytes × Bytes)}

/-- If no key is set twice, no two assignments write to the same cell, but perhaps to that of
`process_name`. -/
theorem oneWriter_of_nodup (h : (keysOf as).Nodup) {k : Key}
    (hk : k = .processName → ¬ SetsBothNames as) : OneWriter Touches k as := by
  have hne : as.Pairwise fun a b => a.1 ≠ b.1 := List.pairwise_map.mp h
  refine hne.imp_of_mem fun {a b} ha hb hab => ?_
  have hmem : ∀ c ∈ as, c.1 ∈ keysOf as := fun c hc => List.mem_map_of_mem hc
  rintro ⟨ha' | ⟨rfl, ha'⟩, hb' | ⟨hname, hb'⟩⟩
  · exact hab (ha'.trans hb'.symm)
  · subst hname
    exact hk rfl ⟨ha' ▸ hmem a ha, hb' ▸ hmem b hb⟩
  · exact hk rfl ⟨hb' ▸ hmem b hb, ha' ▸ hmem a ha⟩
  · exact hab (ha'.trans hb'.symm)

/-- **The order of assignments** that set no key twice is of no matter, but perhaps to
`process_name`. -/
theorem cell_foldl_perm (hperm : as.Perm bs) (h : (keysOf as).Nodup) {k : Key}
    (hk : k = .processName → ¬ SetsBothNames as) :
    cell (bs.foldl applyAssignment config) k = cell (as.foldl applyAssignment config) k :=
  footprint_assignment.get_foldl_perm hperm (oneWriter_of_nodup h hk) rfl

theorem foldl_sameButName (hperm : as.Perm bs) (h : (keysOf as).Nodup) :
    SameButName (as.foldl applyAssignment config) (bs.foldl applyAssignment config) :=
  sameButName_of_cell_eq fun _ hk => cell_foldl_perm hperm h fun he => absurd he hk

theorem foldl_eq_of_perm (hperm : as.Perm bs) (h : (keysOf as).Nodup) (hboth : ¬ SetsBothNames as) :
    bs.foldl applyAssignment config = as.foldl applyAssignment config :=
  eq_of_cell_eq fun _ => cell_foldl_perm hperm h fun _ => hboth

/-- Accepted assignments to `process_names` leave it in use. -/
theorem processNameCount_foldl_ne_zero (h0 : ∀ a ∈ as, 0 ∉ a.2)
    (hacc : ∀ a ∈ as, Accepted a.1 a.2) (h : Key.processNames.name ∈ keysOf as) :
    (as.foldl applyAssignment config).processNameCount ≠ 0 := by
  rw [processNameCount_ne_zero_iff, setting_foldl h0 hacc]
  have hwrites : ∀ a ∈ as, a.1 = Key.processNames.name → ∃ x, writes .processNames a = some x := by
    intro a ha hkey
    obtain ⟨k, hk, hread⟩ := (configSetValue_ok_iff (h0 a ha)).mp (hacc a ha config)
    obtain rfl : k = .processNames := Key.name_injective (hk.trans hkey)
    obtain ⟨x, hx⟩ := Option.isSome_iff_exists.mp hread
    exact ⟨x, by rw [writes, if_pos hkey, hx]⟩
  have hnames : ∀ x ∈ as.filterMap (writes .processNames), x ≠ .names [] := by
    intro x hx
    obtain ⟨a, ha, hxa⟩ := List.mem_filterMap.mp hx
    unfold writes at hxa
    split_ifs at hxa with hkey hname
    · rw [Key.read, readNames] at hxa
      split_ifs at hxa with hc
      obtain rfl := Option.some.inj hxa
      simpa using hc.2.2.1
    · exact absurd hname.1 (by decide)
  obtain ⟨a, ha, hkey⟩ := List.mem_map.mp h
  obtain ⟨x, hx⟩ := hwrites a ha hkey
  have hne : as.filterMap (writes .processNames) ≠ [] :=
    List.ne_nil_of_mem (List.mem_filterMap.mpr ⟨a, ha, hx⟩)
  rw [List.getLast?_eq_some_getLast hne]
  exact hnames _ (List.getLast_mem hne)

/-! ### The order of lines -/

/-- A file of lines. -/
def fileText (lines : List Bytes) : Bytes := lines.flatMap fun line => line ++ [newline]

/-- A line that is read in one piece: it has no newline in it, and fits `line` with the one
behind it. -/
def ShortLine (line : Bytes) : Prop := newline ∉ line ∧ line.length < lineSize - 1

instance (line : Bytes) : Decidable (ShortLine line) := inferInstanceAs (Decidable (_ ∧ _))

variable {lines lines' : List Bytes}

theorem physicalLines_fileText (h : ∀ line ∈ lines, newline ∉ line) :
    physicalLines (fileText lines) = lines.map fun line => line ++ [newline] := by
  induction lines with
  | nil => rfl
  | cons line lines ih =>
    rw [fileText, List.flatMap_cons, List.append_assoc, List.singleton_append,
      physicalLines_append (h line List.mem_cons_self), List.map_cons]
    exact congrArg _ (ih fun l hl => h l (List.mem_cons_of_mem _ hl))

/-- Short lines are what the loop of `config_load` finds. -/
theorem configLines_fileText (h : ∀ line ∈ lines, ShortLine line) :
    configLines (fileText lines) = lines.map fun line => cstr (line ++ [newline]) := by
  have hphysical := physicalLines_fileText fun line hline => (h line hline).1
  have hpieces : fgetsPieces lineSize (fileText lines) = physicalLines (fileText lines) := by
    rw [fgetsPieces_eq_physicalLines_iff (by decide), hphysical]
    intro l hl
    obtain ⟨line, hline, rfl⟩ := List.mem_map.mp hl
    have hlength := (h line hline).2
    rw [List.length_append, List.length_singleton]
    omega
  rw [configLines, hpieces, hphysical, List.map_map]
  rfl

theorem getLast?_fileText {b : UInt8} (h : (fileText lines).getLast? = some b) : b = newline := by
  rcases List.eq_nil_or_concat lines with rfl | ⟨lines, line, rfl⟩
  · simp [fileText] at h
  · simpa [fileText, eq_comm] using h

/-- Whole lines are also found where reading fails behind them. -/
theorem lines_fileText (readError closes : Bool) :
    (⟨fileText lines, readError, closes⟩ : ConfigFile).lines = configLines (fileText lines) := by
  cases readError with
  | false => rfl
  | true =>
    exact congrArg (List.map cstr) (fgetsUntilError_eq_fgetsFrom List.not_mem_nil
      fun _ h => getLast?_fileText h)

/-- The keys that the lines of a file set. -/
def assignedKeys (content : Bytes) : List Bytes := keysOf (assignments (configLines content))

/-- Lines in another order are assignments in another order. -/
theorem perm_configLines (hperm : lines.Perm lines') (h : ∀ line ∈ lines, ShortLine line) :
    (configLines (fileText lines)).Perm (configLines (fileText lines')) := by
  rw [configLines_fileText h, configLines_fileText fun l hl => h l (hperm.mem_iff.mpr hl)]
  exact hperm.map _

theorem perm_assignments {ls ls' : List Bytes} (hperm : ls.Perm ls') :
    (assignments ls).Perm (assignments ls') :=
  (hperm.filter _).filterMap _

/-- **The order of the lines** of a file that sets no key twice is of no matter to `config_load`:
it accepts the file or not, and makes the same of it, but perhaps of `process_name` where the
file sets it twice. -/
theorem configLoad_of_perm (hperm : lines.Perm lines') (h : ∀ line ∈ lines, ShortLine line)
    (hkeys : (assignedKeys (fileText lines)).Nodup) (readError closes : Bool)
    (config : AppConfig) :
    (configLoad (some ⟨fileText lines', readError, closes⟩) config).1 =
      (configLoad (some ⟨fileText lines, readError, closes⟩) config).1 ∧
    SameButName (configLoad (some ⟨fileText lines, readError, closes⟩) config).2
      (configLoad (some ⟨fileText lines', readError, closes⟩) config).2 ∧
    (¬ SetsBothNames (assignments (configLines (fileText lines))) →
      (configLoad (some ⟨fileText lines', readError, closes⟩) config).2 =
        (configLoad (some ⟨fileText lines, readError, closes⟩) config).2) := by
  obtain ⟨hok, hfold, hkeep⟩ := configLoad_lines ⟨fileText lines, readError, closes⟩ config
  obtain ⟨hok', hfold', hkeep'⟩ := configLoad_lines ⟨fileText lines', readError, closes⟩ config
  rw [lines_fileText] at hok hfold hok' hfold'
  have hlines := perm_configLines hperm h
  have hassign := perm_assignments hlines
  have hstatus : (configLoad (some ⟨fileText lines', readError, closes⟩) config).1 =
      (configLoad (some ⟨fileText lines, readError, closes⟩) config).1 := by
    rw [Bool.eq_iff_iff, hok, hok']
    exact and_congr_right fun _ => forall_congr' fun l => by rw [hlines.mem_iff]
  refine ⟨hstatus, ?_⟩
  cases hload : (configLoad (some ⟨fileText lines, readError, closes⟩) config).1 with
  | false =>
    rw [hkeep hload, hkeep' (hstatus.trans hload)]
    exact ⟨rfl, fun _ => rfl⟩
  | true =>
    rw [hfold hload, hfold' (hstatus.trans hload)]
    exact ⟨foldl_sameButName hassign hkeys, foldl_eq_of_perm hassign hkeys⟩

/-- A file that is accepted and sets `process_names` leaves it in use. -/
theorem processNameCount_configLoad_ne_zero {file : ConfigFile}
    (hload : (configLoad (some file) config).1 = true)
    (h : Key.processNames.name ∈ keysOf (assignments file.lines)) :
    (configLoad (some file) config).2.processNameCount ≠ 0 := by
  obtain ⟨hok, hfold, -⟩ := configLoad_lines file config
  rw [hfold hload]
  have hmem := accepted_of_mem_assignments (fun line hline => ConfigFile.zero_not_mem hline)
    (hok.mp hload).2
  exact processNameCount_foldl_ne_zero (fun a ha => (hmem a ha).1) (fun a ha => (hmem a ha).2) h

end EdgeSentinel.Config
