import EdgeSentinel.Config.Order

/-!
# The strings of a configuration are on one line

What `config_set_value` is given is a part of a line of the file, and the newline of a line is
trimmed away with its blanks. So no string of a configuration can break a line of the log, of a
notification or of the text output.

## What is proved

* `newline_not_mem_trim` — the lines that the loop of `config_load` finds have no newline left
  when they are trimmed.
* `oneLine_read` — what is read from a text without a newline has none.
* `oneLine_configLoad` — **`config_load`** keeps the strings of a record on one line, whatever the
  file says and whether it is accepted or not.
-/

namespace EdgeSentinel.Config

open CLib

/-! ### Lines -/

variable {size : ℕ} {content line piece s : Bytes}

/-- A piece has a newline at most at its end. -/
theorem newline_not_mem_dropLast_of_mem_fgetsFrom (hline : newline ∉ line)
    (h : piece ∈ fgetsFrom size content line) : newline ∉ piece.dropLast := by
  induction content generalizing line with
  | nil =>
    rw [fgetsFrom] at h
    split_ifs at h
    · cases h
    · rw [List.mem_singleton.mp h]
      exact fun hmem => hline (List.mem_of_mem_dropLast hmem)
  | cons b content ih =>
    rw [fgetsFrom] at h
    split_ifs at h with hb
    · rcases List.mem_cons.mp h with rfl | h
      · rwa [List.dropLast_concat]
      · exact ih List.not_mem_nil h
    · rw [not_or] at hb
      refine ih (fun hmem => ?_) h
      rcases List.mem_append.mp hmem with hmem | hmem
      · exact hline hmem
      · exact hb.1 (List.mem_singleton.mp hmem).symm

/-- A text with a newline at most at its end has none when it is trimmed. -/
theorem newline_not_mem_trim_of_dropLast (h : newline ∉ s.dropLast) : newline ∉ trim s := by
  rcases List.eq_nil_or_concat s with rfl | ⟨t, b, rfl⟩
  · exact List.not_mem_nil
  rw [List.concat_eq_append, List.dropLast_concat] at h
  rw [List.concat_eq_append]
  by_cases hb : b = newline
  · -- the newline at the end is a blank
    subst hb
    rcases List.suffix_concat_iff.mp (List.dropWhile_suffix isspace) with hnil | ⟨u, hu, hsuffix⟩
    · rw [trim, hnil]
      exact List.not_mem_nil
    · rw [trim, hu, List.rdropWhile_concat_pos _ _ _ rfl]
      exact fun hmem => h (hsuffix.subset ((List.rdropWhile_prefix _ _).subset hmem))
  · intro hmem
    have hmem := (List.dropWhile_suffix _).subset ((List.rdropWhile_prefix _ _).subset hmem)
    rcases List.mem_append.mp hmem with ht | hlast
    · exact h ht
    · exact hb (List.mem_singleton.mp hlast).symm

/-- **The lines** that the loop of `config_load` finds have no newline left when they are
trimmed. -/
theorem newline_not_mem_trim {file : ConfigFile} (h : line ∈ file.lines) :
    newline ∉ trim line := by
  obtain ⟨piece, hpiece, rfl⟩ := List.mem_map.mp (file.lines_prefix.subset h)
  have hdropLast := newline_not_mem_dropLast_of_mem_fgetsFrom List.not_mem_nil hpiece
  refine newline_not_mem_trim_of_dropLast fun hmem => ?_
  obtain ⟨behind, hsplit⟩ := List.takeWhile_prefix (l := piece) (· ≠ (0 : UInt8))
  rcases List.eq_nil_or_concat behind with rfl | ⟨u, b, rfl⟩
  · rw [List.append_nil] at hsplit
    exact hdropLast (hsplit ▸ hmem)
  · refine hdropLast ?_
    rw [← hsplit, List.concat_eq_append, ← List.append_assoc, List.dropLast_concat]
    exact List.mem_append_left _ (List.mem_of_mem_dropLast hmem)

/-- So the values that are assigned have none. -/
theorem newline_not_mem_assignment {file : ConfigFile} {a : Bytes × Bytes}
    (h : a ∈ assignments file.lines) : newline ∉ a.2 := by
  obtain ⟨line, hline, ha⟩ := List.mem_filterMap.mp h
  have htrim := newline_not_mem_trim (List.mem_filter.mp hline).1
  unfold assignment? strchr at ha
  split_ifs at ha with hmem
  · simp only [Option.bind_eq_bind, Option.bind_some] at ha
    split_ifs at ha
    obtain rfl := Option.some.inj ha
    intro hvalue
    have hvalue := (List.dropWhile_suffix _).subset ((List.rdropWhile_prefix _ _).subset hvalue)
    exact htrim ((List.dropWhile_suffix _).subset (List.mem_of_mem_tail hvalue))
  · simp at ha

/-! ### Settings -/

/-- A setting whose strings are on one line. -/
def Setting.OneLine : Setting → Prop
  | .number _ | .double _ => True
  | .text s => newline ∉ s
  | .names l => ∀ name ∈ l, newline ∉ name

/-- **What is read** from a value on one line is on one line. -/
theorem oneLine_read {k : Key} {value : Bytes} {x : Setting} (h : newline ∉ value)
    (hx : k.read value = some x) : x.OneLine := by
  have htext : ∀ {size : ℕ}, readText size value = some x → x.OneLine := by
    intro size hx
    unfold readText at hx
    split_ifs at hx
    obtain rfl := Option.some.inj hx
    exact h
  have hnames : ∀ {size : ℕ} {prepare : Bytes → Bytes}, (∀ s, prepare s ⊆ s) →
      readNames size prepare value = some x → x.OneLine := by
    intro size prepare hprepare hx
    unfold readNames at hx
    dsimp only at hx
    split_ifs at hx
    obtain rfl := Option.some.inj hx
    intro name hname hmem
    obtain ⟨token, htoken, rfl⟩ := List.mem_map.mp hname
    exact h (mem_of_mem_splitOn (List.mem_filter.mp htoken).1 (hprepare token hmem))
  have hnumber : ∀ {o : Option ℕ}, o.map Setting.number = some x → x.OneLine := by
    intro o hx
    obtain ⟨n, -, rfl⟩ := Option.map_eq_some_iff.mp hx
    trivial
  have hdouble : (parseDouble value).map Setting.double = some x → x.OneLine := by
    intro hx
    obtain ⟨d, -, rfl⟩ := Option.map_eq_some_iff.mp hx
    trivial
  cases k with
  | processName | notificationCommand | logFile => exact htext hx
  | processNames => exact hnames (fun _ => List.Subset.refl _) hx
  | networkInterfaces =>
    refine hnames (fun s b hb => ?_) hx
    exact (List.dropWhile_suffix _).subset ((List.rdropWhile_prefix _ _).subset hb)
  | monitorInterval | processPid | notificationEnabled | logMaxSize => exact hnumber hx
  | _ => exact hdouble hx

/-- What an assignment with such a value sets is on one line. -/
theorem oneLine_writes {k : Key} {a : Bytes × Bytes} {x : Setting} (h : newline ∉ a.2)
    (hx : writes k a = some x) : x.OneLine := by
  unfold writes at hx
  split_ifs at hx
  · exact oneLine_read h hx
  · split at hx
    · next l hl =>
      obtain rfl := Option.some.inj hx
      have hnames : ∀ name ∈ l, newline ∉ name := oneLine_read h hl
      cases l with
      | nil => exact List.not_mem_nil
      | cons name l => exact hnames name List.mem_cons_self
    · cases hx

/-! ### Records -/

/-- A record whose strings are on one line. -/
def OneLine (config : AppConfig) : Prop := ∀ k, (setting config k).OneLine

variable {config : AppConfig}

/-- The defaults are on one line. -/
theorem oneLine_defaults (config : AppConfig) : OneLine (configSetDefaults config) := by
  have hempty : ∀ {size : ℕ} (a : CharArray size), 0 < size → newline ∉ (a.store []).cstr :=
    fun a h => by simp [CharArray.cstr_store a List.not_mem_nil h]
  have hnames : ∀ {size : ℕ} (names : Fin 8 → CharArray size), ∀ name ∈ usedNames 0 names,
      newline ∉ name := fun _ name hname => by simp [usedNames] at hname
  have hlog : newline ∉ ((config.logFile.store (ascii "logs/edgesentinel.log")).cstr) := by
    rw [CharArray.cstr_store _ (by decide) (by decide)]
    decide
  intro k
  cases k with
  | processName => exact hempty config.processName (by decide)
  | notificationCommand => exact hempty config.notificationCommand (by decide)
  | logFile => exact hlog
  | processNames | networkInterfaces => exact hnames _
  | _ => trivial

/-- **`config_load`** keeps the strings on one line. -/
theorem oneLine_configLoad (h : OneLine config) (file : Option ConfigFile) :
    OneLine (configLoad file config).2 := by
  cases file with
  | none => exact h
  | some file =>
    obtain ⟨haccepted, hfold, hrefused⟩ := configLoad_lines file config
    cases hloaded : (configLoad (some file) config).1 with
    | false => rwa [hrefused hloaded]
    | true =>
      have hassigned := accepted_of_mem_assignments (fun _ => ConfigFile.zero_not_mem)
        (haccepted.mp hloaded).2
      intro k
      rw [hfold hloaded, setting_foldl (fun a ha => (hassigned a ha).1)
        fun a ha => (hassigned a ha).2]
      cases hlast : ((assignments file.lines).filterMap (writes k)).getLast? with
      | none => exact h k
      | some x =>
        obtain ⟨a, ha, hx⟩ := List.mem_filterMap.mp (List.mem_of_getLast? hlast)
        exact oneLine_writes (newline_not_mem_assignment ha) hx

end EdgeSentinel.Config
