import EdgeSentinel.CLib.Lines
import EdgeSentinel.Config.Load

/-!
# Lines and read errors

What the loop of `config_load` finds in its buffer `line`, time after time, and what becomes of
a file that cannot be read to its end: the loop ends when `fgets` returns NULL, which it does at
the end of the file and at an I/O error. A file of which only a beginning could be read is taken
for a whole one.

## What is proved

* `configLoad_eq_loadLines`, `configLoad_lines` — the loop is given the strings of
  `ConfigFile.lines`, and what it makes of them.
* `configLoad_readError_iff` — a file that could not be read to its end is refused, and
  changes nothing, **if and only if** what was delivered of it is refused, or `fclose`
  fails.
-/

namespace EdgeSentinel.Config

open CLib

/-! ### The lines of a file -/

/-- What the body of the loop of `config_load` finds in `line`, time after time. -/
def ConfigFile.lines (file : ConfigFile) : List Bytes := file.pieces.map cstr

/-- What it finds there of a file that is read to its end. -/
def configLines (content : Bytes) : List Bytes := (fgetsPieces lineSize content).map cstr

/-- When reading fails, it finds a beginning of that. -/
theorem ConfigFile.lines_prefix (file : ConfigFile) : file.lines <+: configLines file.content := by
  refine List.IsPrefix.map cstr ?_
  unfold ConfigFile.pieces
  split_ifs
  · exact fgetsUntilError_prefix lineSize file.content []
  · exact List.prefix_rfl

/-- What is made of lines: the record, and whether one of them was an error. -/
def loadLines (lines : List Bytes) (config : AppConfig) : AppConfig × Bool :=
  lines.foldl (fun loaded line => configLoadLine line loaded) (config, false)

theorem configLoadLine_cstr (piece : Bytes) (loaded : AppConfig × Bool) :
    configLoadLine (cstr piece) loaded = configLoadLine piece loaded := by
  unfold configLoadLine
  rw [cstr_eq_self_iff.mpr (zero_not_mem_cstr piece)]

/-- `config_load` is its loop over these lines. -/
theorem configLoad_eq_loadLines (file : ConfigFile) (config : AppConfig) :
    configLoad (some file) config =
      let (loaded, hasError) := loadLines file.lines config
      if ¬ file.closes then (false, config)
      else if hasError then (false, config)
      else (true, loaded) := by
  have hloop : loadLines file.lines config =
      file.pieces.foldl (fun l piece => configLoadLine piece l) (config, false) := by
    unfold loadLines ConfigFile.lines
    rw [List.foldl_map]
    simp only [configLoadLine_cstr]
  rw [hloop]
  rfl

theorem ConfigFile.zero_not_mem {file : ConfigFile} {line : Bytes} (h : line ∈ file.lines) :
    0 ∉ line := by
  obtain ⟨piece, -, rfl⟩ := List.mem_map.mp h
  exact zero_not_mem_cstr piece

/-- What `config_load` makes of a file, from the lines that its loop finds. -/
theorem configLoad_lines (file : ConfigFile) (config : AppConfig) :
    ((configLoad (some file) config).1 = true ↔
      file.closes = true ∧ ∀ line ∈ file.lines, WellFormed line) ∧
    ((configLoad (some file) config).1 = true → (configLoad (some file) config).2 =
      (assignments file.lines).foldl applyAssignment config) ∧
    ((configLoad (some file) config).1 = false → (configLoad (some file) config).2 = config) := by
  obtain ⟨herror, hfold⟩ := foldl_configLoadLine
    (fun line (hline : line ∈ file.lines) => ConfigFile.zero_not_mem hline) (config, false)
  rw [configLoad_eq_loadLines, loadLines]
  generalize file.lines.foldl (fun l line => configLoadLine line l) (config, false) = r
    at herror hfold ⊢
  obtain ⟨loaded, hasError⟩ := r
  cases hclose : file.closes with
  | false => simp
  | true =>
    cases hasError with
    | false =>
      have hall : ∀ line ∈ file.lines, WellFormed line := (herror.mp rfl).2
      simpa using ⟨hall, hfold hall⟩
    | true =>
      have hsome : ¬ ∀ line ∈ file.lines, WellFormed line := fun hall => by
        simpa using herror.mpr ⟨rfl, hall⟩
      simpa using hsome

/-! ### Files that cannot be read to their ends -/

/-- What is delivered of `content` before reading fails: the pieces that were complete by
then. The piece during which reading fails is not one of them. -/
def linesUntilError (content : Bytes) : List Bytes := (fgetsUntilError lineSize content []).map cstr

/-- **Read errors**: a file of which only a beginning could be read is refused, and changes
nothing, if and only if one of the pieces delivered before reading failed is an error, or
`fclose` fails. -/
theorem configLoad_readError_iff (content : Bytes) (closes : Bool) (config : AppConfig) :
    configLoad (some ⟨content, true, closes⟩) config = (false, config) ↔
      closes = false ∨ ∃ line ∈ linesUntilError content, ¬ WellFormed line := by
  obtain ⟨hok, -, hkeep⟩ := configLoad_lines ⟨content, true, closes⟩ config
  have hfailed : configLoad (some ⟨content, true, closes⟩) config = (false, config) ↔
      ¬ (configLoad (some ⟨content, true, closes⟩) config).1 = true := by
    constructor
    · intro he
      simp [he]
    · intro hfalse
      have hfalse := eq_false_of_ne_true hfalse
      exact Prod.ext hfalse (hkeep hfalse)
  have hlines : (⟨content, true, closes⟩ : ConfigFile).lines = linesUntilError content := rfl
  rw [hfailed, hok, hlines, not_and_or, Bool.not_eq_true, not_forall]
  simp only [not_forall, exists_prop]

/-- The line during which reading fails is not looked at. -/
example : linesUntilError (ascii "log_max_size=5\nlog_max_si") = [ascii "log_max_size=5\n"] := by
  decide +kernel

/-- A beginning of a file is applied. -/
theorem readError_applied : ¬ ∀ (file : ConfigFile) (config : AppConfig),
    file.readError = true → configLoad (some file) config = (false, config) := by
  intro h
  have hload := h ⟨ascii "log_max_size=7\n", true, true⟩ .zero rfl
  have htrue : (configLoad (some ⟨ascii "log_max_size=7\n", true, true⟩) .zero).1 = true := by
    decide
  rw [hload] at htrue
  cases htrue

end EdgeSentinel.Config
