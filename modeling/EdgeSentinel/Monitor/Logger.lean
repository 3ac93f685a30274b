import EdgeSentinel.CLib.Strings

/-!
# The logger

`logger.c`: setting the logger up, and writing a record. The file-local
`current_log_max_size` is passed in and returned.

What `mkdir` does depends on the disk, whose states are of any type `σ`: a `Mkdir σ`
says what it returns and what it leaves behind.

Of the disk, a record is written to two files only: the log file, and the one it is renamed
to when it has become too large. What the operating system answers to the calls made for one
record is a `WriteCalls`.
-/

namespace EdgeSentinel.Monitor

open CLib

/-- `LOGGER_PATH_BUFFER_SIZE`. -/
abbrev loggerPathBufferSize : ℕ := 4096

/-- `LOGGER_DEFAULT_MAX_SIZE_BYTES`. -/
def loggerDefaultMaxSizeBytes : UInt64 := 1024 * 1024

/-- What a call of `mkdir` comes to. -/
inductive MkdirResult where
  /-- The directory was created. -/
  | created
  /-- It failed with `EEXIST`. -/
  | exists
  /-- It failed otherwise. -/
  | failed
  deriving DecidableEq, Repr

/-- `mkdir(path, 0755)` on a disk. -/
abbrev Mkdir (σ : Type*) := Bytes → σ → MkdirResult × σ

variable {σ : Type*}

/-- `/`. -/
def slash : UInt8 := 0x2f

/-- `mkdir`, an existing directory being as good as a new one. -/
def makeDirectory (mkdir : Mkdir σ) (path : Bytes) (disk : σ) : Bool × σ :=
  let (result, disk) := mkdir path disk
  (result ≠ .failed, disk)

/-- The loop of `create_directories`: `done` is the part of the path that has been walked,
and at each slash it is the path of a directory. -/
def createParents (mkdir : Mkdir σ) : (done rest : Bytes) → σ → Bool × σ
  | _, [], disk => (true, disk)
  | done, b :: rest, disk =>
    if b = slash then
      match makeDirectory mkdir done disk with
      | (true, disk) => createParents mkdir (done ++ [b]) rest disk
      | (false, disk) => (false, disk)
    else createParents mkdir (done ++ [b]) rest disk

/-- A path without the slashes at its end; its first byte stays. -/
def dropTrailingSlashes : Bytes → Bytes
  | [] => []
  | b :: path => b :: path.rdropWhile (· = slash)

/-- `create_directories`: whether it returns 0, and the disk it leaves behind. -/
def createDirectories (mkdir : Mkdir σ) (directoryPath : Bytes) (disk : σ) : Bool × σ :=
  if directoryPath = [] then (false, disk)
  else if loggerPathBufferSize ≤ directoryPath.length then (false, disk)
  else
    let path := dropTrailingSlashes directoryPath
    match createParents mkdir (path.take 1) (path.drop 1) disk with
    | (true, disk) => makeDirectory mkdir path disk
    | (false, disk) => (false, disk)

/-- What `logger_init` leaves behind. -/
structure LoggerInit (σ : Type*) where
  /-- It returns 0. -/
  succeeded : Bool
  /-- `current_log_max_size`. -/
  currentLogMaxSize : UInt64
  /-- The disk. -/
  disk : σ

/-- `logger_init`. The new limit is stored before the path is looked at. -/
def loggerInit (mkdir : Mkdir σ) (filePath : Bytes) (maxSizeBytes currentLogMaxSize : UInt64)
    (disk : σ) : LoggerInit σ :=
  if filePath = [] then ⟨false, currentLogMaxSize, disk⟩
  else if maxSizeBytes = 0 then ⟨false, currentLogMaxSize, disk⟩
  else
    match strrchr slash filePath with
    | none => ⟨true, maxSizeBytes, disk⟩
    | some (directory, name) =>
      if name = [] then ⟨false, maxSizeBytes, disk⟩
      else if directory = [] then ⟨true, maxSizeBytes, disk⟩
      else if loggerPathBufferSize ≤ directory.length then ⟨false, maxSizeBytes, disk⟩
      else
        let (succeeded, disk) := createDirectories mkdir directory disk
        ⟨succeeded, maxSizeBytes, disk⟩

/-- A path and a limit that are not refused at once leave the new limit behind, whether the
directories can be made or not. -/
theorem loggerInit_currentLogMaxSize (mkdir : Mkdir σ) {filePath : Bytes}
    {maxSizeBytes : UInt64} (currentLogMaxSize : UInt64) (disk : σ) (hpath : filePath ≠ [])
    (hmax : maxSizeBytes ≠ 0) :
    (loggerInit mkdir filePath maxSizeBytes currentLogMaxSize disk).currentLogMaxSize =
      maxSizeBytes := by
  rw [loggerInit, if_neg hpath, if_neg hmax]
  split
  · rfl
  · split
    · rfl
    · split
      · rfl
      · split <;> rfl

/-! ### Records -/

/-- The log file, and the file behind it, where they exist. -/
structure LogFiles where
  /-- What is in the log file. -/
  current : Option Bytes
  /-- What is in the file with `.1` behind its name. -/
  rotated : Option Bytes
  deriving DecidableEq, Repr

/-- What the operating system answers to the calls made for one record. -/
structure WriteCalls where
  /-- `stat` finds the file, or finds that there is none. -/
  stat : Bool
  /-- `rename` succeeds. -/
  rename : Bool
  /-- `fopen` succeeds. -/
  fopen : Bool
  /-- The text of the local time, if `time`, `localtime` and `strftime` succeed. -/
  timeText : Option Bytes
  /-- `fprintf` succeeds. -/
  fprintf : Bool
  /-- `fclose` succeeds. -/
  fclose : Bool
  /-- How much of the record is in the file if `fprintf` or `fclose` fails. -/
  delivered : ℕ
  deriving DecidableEq, Repr

/-- `rotated_path`. -/
def rotatedPath (filePath : Bytes) : Bytes := filePath ++ ascii ".1"

/-- `rotate_log_if_needed`: whether it returns 0, and the files it leaves behind. The limit is
converted to an `off_t`, which has a sign. -/
def rotateLogIfNeeded (filePath : Bytes) (calls : WriteCalls) (currentLogMaxSize : UInt64)
    (files : LogFiles) : Bool × LogFiles :=
  if ¬ calls.stat then (false, files)
  else
    match files.current with
    | none => (true, files)
    | some content =>
      if (content.length : ℤ) < currentLogMaxSize.toInt64.toInt then (true, files)
      else if loggerPathBufferSize ≤ (rotatedPath filePath).length then (false, files)
      else if ¬ calls.rename then (false, files)
      else (true, ⟨none, some content⟩)

/-- A record: `[2026-07-25 10:30:00] [INFO] EdgeSentinel started`. -/
def logRecord (timeText level message : Bytes) : Bytes :=
  ascii "[" ++ timeText ++ ascii "] [" ++ level ++ ascii "] " ++ message ++ ascii "\n"

/-- `logger_write`: whether it returns 0, and the files it leaves behind. The file is opened,
and so created, before the time is asked for. -/
def loggerWrite (filePath level message : Bytes) (calls : WriteCalls)
    (currentLogMaxSize : UInt64) (files : LogFiles) : Bool × LogFiles :=
  match rotateLogIfNeeded filePath calls currentLogMaxSize files with
  | (false, files) => (false, files)
  | (true, files) =>
    if ¬ calls.fopen then (false, files)
    else
      let content := files.current.getD []
      match calls.timeText with
      | none => (false, { files with current := some content })
      | some timeText =>
        let record := logRecord timeText level message
        if ¬ (calls.fprintf ∧ calls.fclose) then
          (false, { files with current := some (content ++ record.take calls.delivered) })
        else (true, { files with current := some (content ++ record) })

end EdgeSentinel.Monitor
