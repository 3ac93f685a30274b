import EdgeSentinel.Config.Valid

/-!
# Loading over the defaults

The defaults are written over whatever the record holds. They zero the lists of names, but
of the three strings they write the text only: the bytes behind it stay. So what a file
makes of the defaults is the same configuration, whatever was in the record, but not the
same memory.

## What is proved

* `SameConfig` — two records that differ in the bytes behind their strings only.
* `sameConfig_configLoad` — **a file loaded over the defaults** is accepted or refused, and
  gives the same configuration, whatever the record held before; `configValidate_eq` — the
  validator sees no difference.
-/

namespace EdgeSentinel.Config

open CLib

/-! ### Strings -/

/-- Two buffers that hold the same string. -/
structure SameString {n : ℕ} (a b : CharArray n) : Prop where
  /-- The strings are the same. -/
  cstr_eq : b.cstr = a.cstr
  /-- The first one is terminated. -/
  left : a.Terminated
  /-- The second one is terminated. -/
  right : b.Terminated

/-- A string that is copied into two buffers. -/
theorem sameString_store {n : ℕ} (a b : CharArray n) {s : Bytes} (hs : s.length < n) :
    SameString (a.store s) (b.store s) where
  cstr_eq := by
    have hcut : ∀ t, CLib.cstr (s ++ 0 :: t) = CLib.cstr s := by
      intro t
      unfold CLib.cstr
      induction s with
      | nil => simp
      | cons c s ih =>
        rw [List.cons_append, List.takeWhile_cons, List.takeWhile_cons,
          ih (Nat.lt_of_succ_lt hs)]
    rw [CharArray.cstr, CharArray.cstr, CharArray.bytes_store a hs, CharArray.bytes_store b hs,
      hcut, hcut]
  left := CharArray.terminated_store a hs
  right := CharArray.terminated_store b hs

namespace SameString

variable {n : ℕ} {a b : CharArray n}

theorem terminated_iff (h : SameString a b) : b.Terminated ↔ a.Terminated :=
  iff_of_true h.right h.left

theorem head?_iff (h : SameString a b) : b.bytes.head? = some 0 ↔ a.bytes.head? = some 0 := by
  rw [head?_eq_zero_iff h.right, head?_eq_zero_iff h.left, h.cstr_eq]

end SameString

/-! ### Records -/

/-- Two records that differ in the bytes behind their strings only. -/
inductive SameConfig (config : AppConfig) : AppConfig → Prop where
  /-- The three strings may have anything behind them. -/
  | intro {processName : CharArray processNameLength}
    {notificationCommand : CharArray notificationCommandLength} {logFile : CharArray pathLength}
    (hname : SameString config.processName processName)
    (hcommand : SameString config.notificationCommand notificationCommand)
    (hlog : SameString config.logFile logFile) :
    SameConfig config { config with
      processName := processName
      notificationCommand := notificationCommand
      logFile := logFile }

/-- What does not look at the three strings sees no difference. -/
theorem SameConfig.congr {β : Type*} {config config' : AppConfig} (h : SameConfig config config')
    (f : AppConfig → β) (hf : ∀ (c : AppConfig) processName notificationCommand logFile,
      f { c with
        processName := processName
        notificationCommand := notificationCommand
        logFile := logFile } = f c) : f config' = f config := by
  obtain ⟨-, -, -⟩ := h
  exact hf _ _ _ _

theorem sameConfig_defaults (config config' : AppConfig) :
    SameConfig (configSetDefaults config) (configSetDefaults config') :=
  .intro (sameString_store _ _ (by decide)) (sameString_store _ _ (by decide))
    (sameString_store _ _ (by decide))

/-- Two results of an assignment: the same status, and the same configuration. -/
def SameResult (r r' : ConfigValueStatus × AppConfig) : Prop := r'.1 = r.1 ∧ SameConfig r.2 r'.2

section Branches

variable {config config' : AppConfig} {value : Bytes} {R : AppConfig → AppConfig → Prop}
  (h : R config config')

/-! A branch relates its results, with the same status, if its assignment does. -/

include h

theorem setUnsignedInt_rel {set set' : UInt32 → AppConfig} (hset : ∀ v, R (set v) (set' v)) :
    (setUnsignedInt config' value set').1 = (setUnsignedInt config value set).1 ∧
      R (setUnsignedInt config value set).2 (setUnsignedInt config' value set').2 := by
  unfold setUnsignedInt
  split
  · exact ⟨rfl, h⟩
  · exact ⟨rfl, hset _⟩

theorem setDouble_rel {set set' : Double → AppConfig} (hset : ∀ v, R (set v) (set' v)) :
    (setDouble config' value set').1 = (setDouble config value set).1 ∧
      R (setDouble config value set).2 (setDouble config' value set').2 := by
  unfold setDouble
  split
  · exact ⟨rfl, h⟩
  · exact ⟨rfl, hset _⟩

theorem setString_rel {size : ℕ} {set set' : Bytes → AppConfig}
    (hset : value.length < size → R (set value) (set' value)) :
    (setString config' value size set').1 = (setString config value size set).1 ∧
      R (setString config value size set).2 (setString config' value size set').2 := by
  unfold setString
  split
  · exact ⟨rfl, h⟩
  · exact ⟨rfl, hset (by omega)⟩

theorem setNames_rel {size : ℕ} (hsize : 0 < size) {prepare : Bytes → Bytes}
    {set set' : UInt32 → (Fin 8 → CharArray size) → AppConfig}
    (hset : ∀ count parsed, (∀ i, (parsed i).Terminated) →
      R (set count parsed) (set' count parsed)) :
    (setNames size config' value prepare set').1 = (setNames size config value prepare set).1 ∧
      R (setNames size config value prepare set).2
        (setNames size config' value prepare set').2 := by
  have hzero : ∀ _ : Fin 8, (CharArray.zero size).Terminated := fun _ =>
    List.mem_replicate.mpr ⟨hsize.ne', rfl⟩
  unfold setNames
  split_ifs
  · exact ⟨rfl, h⟩
  · exact ⟨rfl, h⟩
  · split
    · exact ⟨rfl, h⟩
    · rename_i count parsed hp
      split_ifs
      · exact ⟨rfl, h⟩
      · exact ⟨rfl, hset _ _ (terminated_parseNames hzero hp)⟩

theorem setNotificationEnabled_rel
    (hset : ∀ v, R { config with notificationEnabled := v }
      { config' with notificationEnabled := v }) :
    (setNotificationEnabled config' value).1 = (setNotificationEnabled config value).1 ∧
      R (setNotificationEnabled config value).2 (setNotificationEnabled config' value).2 := by
  unfold setNotificationEnabled
  split
  · exact ⟨rfl, h⟩
  · split_ifs
    · exact ⟨rfl, h⟩
    · exact ⟨rfl, hset _⟩

theorem setLogMaxSize_rel
    (hset : ∀ v, R { config with logMaxSize := v } { config' with logMaxSize := v }) :
    (setLogMaxSize config' value).1 = (setLogMaxSize config value).1 ∧
      R (setLogMaxSize config value).2 (setLogMaxSize config' value).2 := by
  unfold setLogMaxSize
  split
  · exact ⟨rfl, h⟩
  · exact ⟨rfl, hset _⟩

theorem setProcessNames_rel
    (hset : ∀ count parsed, (∀ i, (parsed i).Terminated) →
      R { config with
          processNames := parsed
          processNameCount := count
          processName := config.processName.store (parsed 0).cstr }
        { config' with
          processNames := parsed
          processNameCount := count
          processName := config'.processName.store (parsed 0).cstr }) :
    (setProcessNames config' value).1 = (setProcessNames config value).1 ∧
      R (setProcessNames config value).2 (setProcessNames config' value).2 := by
  unfold setProcessNames
  split_ifs
  · exact ⟨rfl, h⟩
  · exact setNames_rel h (by decide) hset

end Branches

variable {config config' : AppConfig}

/-- An assignment makes the same of the same configuration. -/
theorem configSetValue_same (h : SameConfig config config') (key value : Bytes) :
    SameResult (configSetValue config key value) (configSetValue config' key value) := by
  obtain ⟨k, rfl, hbranch⟩ | hunknown := configSetValue_cases key
  swap
  · rw [hunknown, hunknown]
    exact ⟨rfl, h⟩
  obtain ⟨hname, hcommand, hlog⟩ := h
  rw [hbranch, hbranch]
  cases k
  all_goals dsimp only [Key.branch]
  case monitorInterval | processPid =>
    exact setUnsignedInt_rel (.intro hname hcommand hlog) fun v => .intro hname hcommand hlog
  case processName =>
    exact setString_rel (.intro hname hcommand hlog) fun hlt =>
      .intro (sameString_store _ _ hlt) hcommand hlog
  case notificationCommand =>
    exact setString_rel (.intro hname hcommand hlog) fun hlt =>
      .intro hname (sameString_store _ _ hlt) hlog
  case logFile =>
    exact setString_rel (.intro hname hcommand hlog) fun hlt =>
      .intro hname hcommand (sameString_store _ _ hlt)
  case processNames =>
    exact setProcessNames_rel (.intro hname hcommand hlog) fun _ _ hp =>
      .intro (sameString_store _ _ (CharArray.length_cstr_lt (hp 0))) hcommand hlog
  case networkInterfaces =>
    exact setNames_rel (.intro hname hcommand hlog) (by decide) fun _ _ _ =>
      .intro hname hcommand hlog
  case notificationEnabled =>
    exact setNotificationEnabled_rel (.intro hname hcommand hlog) fun v =>
      .intro hname hcommand hlog
  case logMaxSize =>
    exact setLogMaxSize_rel (.intro hname hcommand hlog) fun v => .intro hname hcommand hlog
  all_goals
    exact setDouble_rel (.intro hname hcommand hlog) fun v => .intro hname hcommand hlog

/-- What a file has come to so far: the same configuration, with or without an error. -/
def SameLoaded (loaded loaded' : AppConfig × Bool) : Prop :=
  loaded'.2 = loaded.2 ∧ SameConfig loaded.1 loaded'.1

/-- A line of a file makes the same of the same configuration. -/
theorem configLoadLine_same {loaded loaded' : AppConfig × Bool} (h : SameLoaded loaded loaded')
    (piece : Bytes) : SameLoaded (configLoadLine piece loaded) (configLoadLine piece loaded') := by
  unfold configLoadLine
  dsimp only
  split
  · exact h
  · split
    · exact ⟨rfl, h.2⟩
    · rename_i key value _
      split
      · exact ⟨rfl, h.2⟩
      · obtain ⟨hstatus, hsame⟩ := configSetValue_same h.2 (trim key) (trim value)
        generalize configSetValue loaded.1 (trim key) (trim value) = r at hstatus hsame ⊢
        generalize configSetValue loaded'.1 (trim key) (trim value) = r' at hstatus hsame ⊢
        obtain ⟨status, c⟩ := r
        obtain ⟨status', c'⟩ := r'
        obtain rfl : status' = status := hstatus
        cases status' with
        | ok => exact ⟨h.1, hsame⟩
        | invalid => exact ⟨rfl, hsame⟩
        | unknown => exact ⟨rfl, hsame⟩

theorem foldl_configLoadLine_same {loaded loaded' : AppConfig × Bool}
    (h : SameLoaded loaded loaded') (pieces : List Bytes) :
    SameLoaded (pieces.foldl (fun l piece => configLoadLine piece l) loaded)
      (pieces.foldl (fun l piece => configLoadLine piece l) loaded') := by
  induction pieces generalizing loaded loaded' with
  | nil => exact h
  | cons piece pieces ih => exact ih (configLoadLine_same h piece)

/-- **A file makes the same of the same configuration**: it is accepted or refused, and what
it gives differs in the bytes behind the strings only. -/
theorem configLoad_same (h : SameConfig config config') (file : Option ConfigFile) :
    (configLoad file config').1 = (configLoad file config).1 ∧
      SameConfig (configLoad file config).2 (configLoad file config').2 := by
  unfold configLoad
  cases file with
  | none => exact ⟨rfl, h⟩
  | some file =>
    have hloop := foldl_configLoadLine_same (⟨rfl, h⟩ : SameLoaded (config, false) (config', false))
      file.pieces
    dsimp only
    by_cases hclose : file.closes = true
    · simp only [hclose, not_true_eq_false, if_false, hloop.1]
      split
      · exact ⟨rfl, h⟩
      · exact ⟨rfl, hloop.2⟩
    · simp only [hclose]
      exact ⟨rfl, h⟩

theorem sameConfig_configLoad (file : Option ConfigFile) (config config' : AppConfig) :
    (configLoad file (configSetDefaults config')).1 =
      (configLoad file (configSetDefaults config)).1 ∧
    SameConfig (configLoad file (configSetDefaults config)).2
      (configLoad file (configSetDefaults config')).2 :=
  configLoad_same (sameConfig_defaults config config') file

theorem reject_congr {bad bad' : Prop} [Decidable bad] [Decidable bad'] (h : bad ↔ bad')
    (problem : ConfigProblem) : reject bad problem = reject bad' problem := by
  unfold reject
  split_ifs with h₁ h₂ h₂
  · rfl
  · exact absurd (h.mp h₁) h₂
  · exact absurd (h.mpr h₂) h₁
  · rfl

/-- The validator sees no difference. -/
theorem configValidate_eq (h : SameConfig config config') :
    configValidate config' = configValidate config := by
  obtain ⟨-, hcommand, hlog⟩ := h
  unfold configValidate
  dsimp only
  rw [reject_congr (not_congr hcommand.terminated_iff),
    reject_congr (and_congr_right fun _ => hcommand.head?_iff), reject_congr hlog.head?_iff]
  rfl

end EdgeSentinel.Config
