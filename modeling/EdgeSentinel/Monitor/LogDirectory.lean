import EdgeSentinel.Monitor.Directories
import EdgeSentinel.Monitor.SetUp

/-!
# The directory of the log file

`logger_init` makes the directory that the log file is to stand in. It takes whatever it finds
at its place for a directory.

## The model

* `logDirectory` — where the log file is to stand.
* `mkdirAnswers` — what the calls of `mkdir` come to on a tree of files, one after the other.

## What is proved

* `loggerInit_makesLogDirectory_iff` — **when `logger_init` keeps its promise**, that the directory
  of the log file is there if it returns 0.
* `start_canInit`, `attemptReload_canInit` — a configuration that `logger_init` cannot return 0
  for is refused by the daemon.
-/

namespace EdgeSentinel.Monitor

open CLib FileSystem Config Trace Trace.Traced

variable {fs : FileSystem} {refuses : ℕ → Bool} {disk : Disk} {directory : Bytes}

/-! ### The log file -/

/-- The path of the log file up to its last slash. -/
def directoryPart (filePath : Bytes) : Bytes :=
  match strrchr slash filePath with
  | none => []
  | some (directory, _) => directory ++ [slash]

/-- Where the log file is to stand. -/
def logDirectory (fs : FileSystem) (filePath : Bytes) : Position :=
  position fs (directoryPart filePath)

/-- What `logger_init` promises. -/
structure MakesLogDirectory (fs fs' : FileSystem) (filePath : Bytes) : Prop where
  /-- The log file is to stand in a directory. -/
  directory : fs'.kind (logDirectory fs filePath) = .directory
  /-- So is that one, and so on. -/
  intermediate : fs'.Walks (startOf fs (directoryPart filePath))
    (components (directoryPart filePath)).dropLast
  /-- Nothing else has changed. -/
  adds : fs.Adds fs' (onTheWay fs (directoryPart filePath))

/-- What must be so that `logger_init` returns 0. -/
structure CanInit (refuses : ℕ → Bool) (disk : Disk) (filePath : Bytes) (maxSizeBytes : UInt64) :
    Prop where
  /-- There is a path, -/
  path : filePath ≠ []
  /-- and a limit. -/
  limit : maxSizeBytes ≠ 0
  /-- The path has a name behind its last slash, and what is in front of it can be created. -/
  directory : ∀ directory name, strrchr slash filePath = some (directory, name) →
    name ≠ [] ∧ (directory ≠ [] → CanCreate refuses disk directory)

variable {filePath : Bytes} {maxSizeBytes currentLogMaxSize : UInt64}

/-- `logger_init` with a path that has a directory part. -/
theorem loggerInit_of_directory {name : Bytes} (hpath : filePath ≠ []) (hlimit : maxSizeBytes ≠ 0)
    (hslash : strrchr slash filePath = some (directory, name)) (hname : name ≠ [])
    (hne : directory ≠ []) :
    (loggerInit (mkdir refuses) filePath maxSizeBytes currentLogMaxSize disk).succeeded =
        (createDirectories (mkdir refuses) directory disk).1 ∧
      (loggerInit (mkdir refuses) filePath maxSizeBytes currentLogMaxSize disk).disk =
        (createDirectories (mkdir refuses) directory disk).2 := by
  rw [loggerInit, if_neg hpath, if_neg hlimit]
  simp only [hslash]
  rw [if_neg hname, if_neg hne]
  split_ifs with hlong
  · rw [createDirectories, if_neg hne, if_pos hlong]
    exact ⟨rfl, rfl⟩
  · exact ⟨rfl, rfl⟩

/-- `logger_init` with one that has none, which leaves the disk alone. -/
theorem loggerInit_of_no_directory (hpath : filePath ≠ []) (hlimit : maxSizeBytes ≠ 0)
    (hslash : ∀ directory name, strrchr slash filePath = some (directory, name) →
      name ≠ [] ∧ directory = []) :
    loggerInit (mkdir refuses) filePath maxSizeBytes currentLogMaxSize disk =
      ⟨true, maxSizeBytes, disk⟩ := by
  rw [loggerInit, if_neg hpath, if_neg hlimit]
  rcases hcut : strrchr slash filePath with _ | ⟨directory, name⟩
  · rfl
  · obtain ⟨hname, hnone⟩ := hslash _ _ hcut
    dsimp only
    rw [if_neg hname, if_pos hnone]

/-- **`logger_init`** returns 0 exactly if it can. -/
theorem loggerInit_iff :
    (loggerInit (mkdir refuses) filePath maxSizeBytes currentLogMaxSize disk).succeeded = true ↔
      CanInit refuses disk filePath maxSizeBytes := by
  by_cases hpath : filePath = []
  · rw [loggerInit, if_pos hpath]
    exact iff_of_false Bool.false_ne_true fun h => h.path hpath
  by_cases hlimit : maxSizeBytes = 0
  · rw [loggerInit, if_neg hpath, if_pos hlimit]
    exact iff_of_false Bool.false_ne_true fun h => h.limit hlimit
  by_cases hslash : ∀ directory name, strrchr slash filePath = some (directory, name) →
    name ≠ [] ∧ directory = []
  · rw [loggerInit_of_no_directory hpath hlimit hslash]
    refine iff_of_true rfl ⟨hpath, hlimit, fun directory name hcut => ?_⟩
    obtain ⟨hname, hnone⟩ := hslash directory name hcut
    exact ⟨hname, fun hne => absurd hnone hne⟩
  · push Not at hslash
    obtain ⟨directory, name, hcut, hne⟩ := hslash
    by_cases hname : name = []
    · rw [loggerInit, if_neg hpath, if_neg hlimit]
      simp only [hcut]
      rw [if_pos hname]
      exact iff_of_false Bool.false_ne_true fun h => (h.directory _ _ hcut).1 hname
    · rw [(loggerInit_of_directory hpath hlimit hcut hname (hne hname)).1, createDirectories_iff]
      constructor
      · intro hcan
        refine ⟨hpath, hlimit, fun directory' name' hcut' => ?_⟩
        obtain ⟨rfl, rfl⟩ := Prod.mk.inj (Option.some.inj (hcut.symm.trans hcut'))
        exact ⟨hname, fun _ => hcan⟩
      · exact fun h => (h.directory _ _ hcut).2 (hne hname)

/-- Where the path has no directory part, there is a directory anyway. -/
theorem makesLogDirectory_refl (fs : FileSystem)
    (h : components (directoryPart filePath) = []) : MakesLogDirectory fs fs filePath := by
  have hstart := kind_startOf fs (directoryPart filePath)
  refine ⟨?_, fun names hnames => ?_, .refl _ _⟩
  · rw [logDirectory, position, h]
    exact hstart
  · rw [h] at hnames
    rw [List.prefix_nil.mp hnames]
    exact hstart

/-- Where nothing but a directory was in the way at its place, the directory is there. -/
theorem makesLogDirectory_of_canInit (hcan : CanInit refuses disk filePath maxSizeBytes)
    (hother : disk.fs.kind (logDirectory disk.fs filePath) ≠ .other) :
    MakesLogDirectory disk.fs
      (loggerInit (mkdir refuses) filePath maxSizeBytes currentLogMaxSize disk).disk.fs
      filePath := by
  rcases hcut : strrchr slash filePath with _ | ⟨directory, name⟩
  · rw [loggerInit_of_no_directory hcan.path hcan.limit (by rw [hcut]; nofun)]
    exact makesLogDirectory_refl _ (by rw [directoryPart, hcut]; rfl)
  obtain ⟨hname, hcreate⟩ := hcan.directory _ _ hcut
  have hpart : directoryPart filePath = directory ++ [slash] := by rw [directoryPart, hcut]
  have hcomponents : components (directoryPart filePath) = components directory := by
    rw [hpart, components_append_slash]
    exact List.append_nil _
  by_cases hne : directory = []
  · rw [loggerInit_of_no_directory hcan.path hcan.limit fun d n hcut' => by
      obtain ⟨rfl, rfl⟩ := Prod.mk.inj (Option.some.inj (hcut.symm.trans hcut'))
      exact ⟨hname, hne⟩]
    exact makesLogDirectory_refl _ (by rw [hcomponents, hne]; rfl)
  have hstart : startOf disk.fs (directoryPart filePath) = startOf disk.fs directory := by
    rw [hpart, startOf_append hne]
  have hposition : logDirectory disk.fs filePath = position disk.fs directory := by
    rw [logDirectory, position, position, hstart, hcomponents]
  rw [(loggerInit_of_directory hcan.path hcan.limit hcut hname hne).2]
  obtain ⟨hwalks, hkind⟩ := walks_createDirectories (createDirectories_iff.mpr (hcreate hne))
  refine ⟨?_, ?_, ?_⟩
  · rw [hposition] at hother ⊢
    exact hkind.mpr hother
  · rw [hstart, hcomponents]
    exact hwalks
  · rw [onTheWay, hstart, hcomponents]
    exact adds_createDirectories refuses directory disk

/-- **`logger_init` keeps its promise** exactly if nothing but a directory was in the way at the
place of the directory, or if it cannot return 0 anyway. -/
theorem loggerInit_makesLogDirectory_iff (refuses : ℕ → Bool) (disk : Disk) (filePath : Bytes)
    (maxSizeBytes currentLogMaxSize : UInt64) :
    ((loggerInit (mkdir refuses) filePath maxSizeBytes currentLogMaxSize disk).succeeded = true →
      MakesLogDirectory disk.fs
        (loggerInit (mkdir refuses) filePath maxSizeBytes currentLogMaxSize disk).disk.fs filePath) ↔
    (CanInit refuses disk filePath maxSizeBytes →
      disk.fs.kind (logDirectory disk.fs filePath) ≠ .other) := by
  rw [loggerInit_iff]
  refine forall_congr' fun hcan => ⟨fun hmakes hother => ?_, makesLogDirectory_of_canInit hcan⟩
  have hdirectory := hmakes.directory
  rw [hmakes.adds.other_iff.mpr hother] at hdirectory
  cases hdirectory

/-- A tree with a file `f` in the working directory. -/
def fileInTheWay : FileSystem where
  kind p := if p = [] then .directory else if p = [ascii "f"] then .other else .absent
  cwd := []
  kind_root := rfl
  kind_parent {p name} h := by
    by_cases hp : p = []
    · rw [if_pos hp]
    · have hne : p ++ [name] ≠ [ascii "f"] := by
        intro he
        exact hp (List.append_inj_left' (he.trans (List.nil_append _).symm) rfl)
      rw [if_neg (by simp), if_neg hne] at h
      exact absurd rfl h
  kind_cwd := rfl

/-- A file is taken for the directory of the log file. -/
theorem file_taken_for_directory : ¬ ∀ refuses disk filePath maxSizeBytes currentLogMaxSize,
    (loggerInit (mkdir refuses) filePath maxSizeBytes currentLogMaxSize disk).succeeded = true →
      MakesLogDirectory disk.fs
        (loggerInit (mkdir refuses) filePath maxSizeBytes currentLogMaxSize disk).disk.fs
        filePath := by
  intro h
  have hmakes := h (fun _ => false) ⟨fileInTheWay, 0⟩ (ascii "f/x.log") 1 1 (by decide +kernel)
  exact absurd hmakes.directory (by decide +kernel)

/-! ### The daemon -/

/-- The paths that the loop of `create_directories` asks `mkdir` for. -/
def askedParents : (done rest : Bytes) → List Bytes
  | _, [] => []
  | done, b :: rest =>
    if b = slash then done :: askedParents (done ++ [b]) rest else askedParents (done ++ [b]) rest

/-- What the calls of `mkdir` for these paths come to. -/
def answersTo {σ : Type*} (mkdir : Mkdir σ) : List Bytes → σ → List MkdirResult
  | [], _ => []
  | path :: paths, disk => (mkdir path disk).1 :: answersTo mkdir paths (mkdir path disk).2

/-- What the calls of `mkdir` come to when `logger_init` is called with this path. -/
def mkdirAnswers {σ : Type*} (mkdir : Mkdir σ) (filePath : Bytes) (disk : σ) (n : ℕ) :
    MkdirResult :=
  match strrchr slash filePath with
  | none => .failed
  | some (directory, _) =>
    let path := dropTrailingSlashes directory
    (answersTo mkdir (askedParents (path.take 1) (path.drop 1) ++ [path]) disk).getD n .failed

variable {σ : Type*} {results : ℕ → MkdirResult} {paths : List Bytes}

/-- The loop of `create_directories`, with its answers instead of the disk. -/
theorem createParents_mkdirCalls (make : Mkdir σ) (done rest : Bytes) (files : σ) (n : ℕ)
    (h : ∀ i, results (n + i) =
      (answersTo make (askedParents done rest ++ paths) files).getD i .failed) :
    ∃ n', createParents (mkdirCalls results) done rest n =
        ((createParents make done rest files).1, n') ∧
      ((createParents make done rest files).1 = true → ∀ i, results (n' + i) =
        (answersTo make paths (createParents make done rest files).2).getD i .failed) := by
  induction rest generalizing done files n with
  | nil => exact ⟨n, rfl, fun _ => h⟩
  | cons b rest ih =>
    rw [createParents, createParents]
    rw [askedParents] at h
    split_ifs at h ⊢
    swap
    · exact ih _ _ _ h
    have hfirst : results n = (make done files).1 := h 0
    have hmake : makeDirectory (mkdirCalls results) done n =
        ((makeDirectory make done files).1, n + 1) := by
      unfold makeDirectory mkdirCalls
      rw [hfirst]
    have hrest : ∀ i, results (n + 1 + i) = (answersTo make (askedParents (done ++ [b]) rest ++
        paths) (makeDirectory make done files).2).getD i .failed := by
      intro i
      rw [Nat.add_assoc, Nat.add_comm 1 i, h (i + 1)]
      rfl
    rw [hmake]
    rcases hmade : makeDirectory make done files with ⟨_ | _, files'⟩
    · exact ⟨n + 1, rfl, fun h => absurd h Bool.false_ne_true⟩
    · rw [hmade] at hrest
      exact ih _ _ _ hrest

/-- `create_directories` returns the same with the answers instead of the disk. -/
theorem createDirectories_mkdirCalls (make : Mkdir σ) (directory : Bytes) (files : σ)
    (h : ∀ i, results i = (answersTo make
      (askedParents ((dropTrailingSlashes directory).take 1)
        ((dropTrailingSlashes directory).drop 1) ++ [dropTrailingSlashes directory])
      files).getD i .failed) :
    (createDirectories (mkdirCalls results) directory 0).1 =
      (createDirectories make directory files).1 := by
  obtain ⟨n, hparents, hlast⟩ := createParents_mkdirCalls make
    ((dropTrailingSlashes directory).take 1) ((dropTrailingSlashes directory).drop 1) files 0
    fun i => (congrArg results (Nat.zero_add i)).trans (h i)
  unfold createDirectories
  split_ifs
  · rfl
  · rfl
  dsimp only
  rw [hparents]
  rcases hmade : createParents make ((dropTrailingSlashes directory).take 1)
    ((dropTrailingSlashes directory).drop 1) files with ⟨_ | _, files'⟩
  · rfl
  · rw [hmade] at hlast
    have hresult : results n = (make (dropTrailingSlashes directory) files').1 := hlast rfl 0
    show decide (results n ≠ .failed) = decide ((make (dropTrailingSlashes directory) files').1 ≠ _)
    rw [hresult]

/-- **`logger_init`** returns the same when it is given the answers instead of the disk. -/
theorem loggerInit_mkdirAnswers (make : Mkdir σ) (files : σ) :
    (loggerInit (mkdirCalls (mkdirAnswers make filePath files)) filePath maxSizeBytes
      currentLogMaxSize 0).succeeded =
    (loggerInit make filePath maxSizeBytes currentLogMaxSize files).succeeded := by
  unfold loggerInit
  split_ifs
  · rfl
  · rfl
  rcases hcut : strrchr slash filePath with _ | ⟨directory, name⟩
  · rfl
  dsimp only
  split_ifs
  · rfl
  · rfl
  · rfl
  · refine createDirectories_mkdirCalls make directory files fun i => ?_
    rw [mkdirAnswers, hcut]

/-- A start with a disk on which `logger_init` cannot return 0 fails. -/
theorem start_canInit {calls : StartCalls} {s : MainState} (h : (start calls).result = .ok s)
    (hmkdir : calls.mkdir = mkdirAnswers (mkdir refuses)
      (startConfig calls.memory.config calls.configFile).logFile.cstr disk) :
    CanInit refuses disk (startConfig calls.memory.config calls.configFile).logFile.cstr
      (startConfig calls.memory.config calls.configFile).logMaxSize := by
  obtain ⟨s₁, -, h⟩ := result_bind_ok.mp h
  obtain ⟨-, -, h⟩ := result_bind_ok.mp h
  obtain ⟨previousCpu, -, h⟩ := result_bind_ok.mp h
  obtain ⟨previousNetwork, -, h⟩ := result_bind_ok.mp h
  obtain ⟨previousNetworkTime, -, h⟩ := result_bind_ok.mp h
  obtain ⟨_, hlogger, -⟩ := result_bind_ok.mp h
  rw [result_check_ok, hmkdir, loggerInit_mkdirAnswers] at hlogger
  exact loggerInit_iff.mp hlogger

/-- So does a reload. -/
theorem attemptReload_canInit {calls : ReloadCalls} {s s' : MainState}
    (h : attemptReload calls s = (none, s'))
    (hmkdir : calls.mkdir = mkdirAnswers (mkdir refuses) (reloadConfig calls s).logFile.cstr disk) :
    CanInit refuses disk (reloadConfig calls s).logFile.cstr (reloadConfig calls s).logMaxSize := by
  obtain ⟨-, step, hstep⟩ | ⟨-, step, network, time, hstep, hnone⟩ := attemptReload_cases calls s
  · rw [hstep] at h
    cases h
  · rw [hstep] at h
    obtain ⟨hlogger, -, -⟩ := hnone.mp (congrArg Prod.fst h)
    rw [hmkdir, loggerInit_mkdirAnswers] at hlogger
    exact loggerInit_iff.mp hlogger

end EdgeSentinel.Monitor
