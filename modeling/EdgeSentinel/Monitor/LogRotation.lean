import EdgeSentinel.Monitor.Logger

/-!
# The log over its rotations

`logger_write` appends a record to the log file. When the file has reached its limit, it is
first renamed, in the place of the one that was renamed before.

## The model

A `LoggerCall` is a call of `logger_init` or `logger_write`, with what the operating system
answers to it, and a `Logger` is what such calls change: the limit and the two files. A
`Log` is a logger together with the records that were ever appended, oldest first.

The abstract view of the two files is `Generations`: an older and a newer list of records,
where a rotation drops the older one.

## What is proved

* `call_endsRecords` — the two files hold two generations that are the end of the records,
  before and behind every call in which no call on a file fails.
* `writesWithinLimit` — a record that was written is the end of the log file, which is no
  larger than the limit allows.
* `log_kept` — both for whole sequences of calls. A call that cannot read the clock may leave
  an empty log file behind, so the newest record stays at the end of the log file only as long
  as the clock can be read.
-/

namespace EdgeSentinel.Monitor

open CLib

/-! ### Two generations -/

/-- Two generations of records. -/
structure Generations (α : Type*) where
  /-- The older one. -/
  older : List α
  /-- The newer one. -/
  newer : List α

namespace Generations

variable {α : Type*} {g : Generations α} {history : List α}

/-- A record is appended to the newer one. -/
def append (g : Generations α) (a : α) : Generations α := { g with newer := g.newer ++ [a] }

/-- The newer one becomes the older one. -/
def rotate (g : Generations α) : Generations α := ⟨g.newer, []⟩

/-- The two are the end of the history. -/
def Ends (g : Generations α) (history : List α) : Prop := g.older ++ g.newer <:+ history

theorem Ends.append (h : g.Ends history) (a : α) : (g.append a).Ends (history ++ [a]) := by
  obtain ⟨before, rfl⟩ := h
  exact ⟨before, by simp [Generations.append]⟩

theorem Ends.rotate (h : g.Ends history) : g.rotate.Ends history := by
  unfold Ends Generations.rotate
  rw [List.append_nil]
  exact (List.suffix_append _ _).trans h

end Generations

/-! ### Calls -/

/-- What the calls of the logger change. -/
structure Logger where
  /-- `current_log_max_size`. -/
  currentLogMaxSize : UInt64
  /-- The files. -/
  files : LogFiles

/-- A call of the logger. -/
inductive LoggerCall where
  /-- `logger_init`, with what `mkdir` does, which may depend on the calls of it so far. -/
  | init (maxSizeBytes : UInt64) (mkdir : Mkdir ℕ)
  /-- `logger_write`. -/
  | write (level message : Bytes) (calls : WriteCalls)

/-- A call: whether it returns 0, and what it leaves behind. -/
def LoggerCall.perform (filePath : Bytes) (l : Logger) : LoggerCall → Bool × Logger
  | .init maxSizeBytes mkdir =>
    let result := loggerInit mkdir filePath maxSizeBytes l.currentLogMaxSize 0
    (result.succeeded, { l with currentLogMaxSize := result.currentLogMaxSize })
  | .write level message calls =>
    let (succeeded, files) := loggerWrite filePath level message calls l.currentLogMaxSize l.files
    (succeeded, { l with files := files })

/-- The record that a call is to append. -/
def LoggerCall.record? : LoggerCall → Option Bytes
  | .init _ _ => none
  | .write level message calls => calls.timeText.map fun time => logRecord time level message

/-- A logger, and all the records that were ever appended. -/
structure Log extends Logger where
  /-- The records, oldest first. -/
  records : List Bytes

/-- A call. It appends its record if it returns 0. -/
def Log.call (filePath : Bytes) (l : Log) (c : LoggerCall) : Log :=
  let (succeeded, logger) := c.perform filePath l.toLogger
  ⟨logger, if succeeded then l.records ++ c.record?.toList else l.records⟩

/-- Some calls, one after the other. -/
def Log.run (filePath : Bytes) (l : Log) (calls : List LoggerCall) : Log :=
  calls.foldl (Log.call filePath) l

/-- No call on a file fails. -/
def LoggerCall.FilesSucceed : LoggerCall → Prop
  | .init _ mkdir => ∀ path disk, (mkdir path disk).1 ≠ .failed
  | .write _ _ calls => calls.stat ∧ calls.rename ∧ calls.fopen ∧ calls.fprintf ∧ calls.fclose

/-- The clock can be read. -/
def LoggerCall.ReadsClock : LoggerCall → Prop
  | .init _ _ => True
  | .write _ _ calls => calls.timeText.isSome

/-- The files hold these generations. -/
def LogFiles.Holds (files : LogFiles) (g : Generations Bytes) : Prop :=
  files.rotated.getD [] = g.older.flatten ∧ files.current.getD [] = g.newer.flatten

/-- The two files are the end of the records. -/
def Log.EndsRecords (l : Log) : Prop :=
  ∃ g : Generations Bytes, l.files.Holds g ∧ g.Ends l.records

/-! ### One record -/

variable {filePath level message content : Bytes} {answers : WriteCalls} {limit : UInt64}
  {rotated : Option Bytes} {files files' : LogFiles} {g : Generations Bytes} {l : Log}
  {calls : List LoggerCall}

/-- The `off_t` that is made of a limit: from 2⁶³ on it is negative. -/
theorem toInt_toInt64 (limit : UInt64) :
    limit.toInt64.toInt =
      if limit.toNat < 2 ^ 63 then (limit.toNat : ℤ) else limit.toNat - 2 ^ 64 := by
  have hint : limit.toInt64.toInt = limit.toBitVec.toInt := rfl
  have hnat : limit.toNat = limit.toBitVec.toNat := rfl
  rw [hint, hnat, BitVec.toInt_eq_toNat_cond]
  split_ifs <;> omega

/-- It is at most the limit. -/
theorem toInt_toInt64_le (limit : UInt64) : limit.toInt64.toInt ≤ limit.toNat := by
  rw [toInt_toInt64]
  split_ifs <;> omega

/-- A file that is not found stays. -/
theorem rotateLogIfNeeded_of_not_stat (hstat : answers.stat = false) :
    rotateLogIfNeeded filePath answers limit files = (false, files) := by
  unfold rotateLogIfNeeded
  rw [if_pos (by rw [hstat]; decide)]

/-- One that is found to be below the limit stays. -/
theorem rotateLogIfNeeded_of_lt (h : (content.length : ℤ) < limit.toInt64.toInt) :
    rotateLogIfNeeded filePath answers limit ⟨some content, rotated⟩ =
      (answers.stat, ⟨some content, rotated⟩) := by
  unfold rotateLogIfNeeded
  dsimp only
  rw [if_pos h]
  cases answers.stat <;> rfl

/-- One that is not is renamed, if it can be. -/
theorem rotateLogIfNeeded_of_not_lt (hstat : answers.stat = true)
    (h : ¬ (content.length : ℤ) < limit.toInt64.toInt) :
    rotateLogIfNeeded filePath answers limit ⟨some content, rotated⟩ =
      if (rotatedPath filePath).length < loggerPathBufferSize ∧ answers.rename then
        (true, ⟨none, some content⟩)
      else (false, ⟨some content, rotated⟩) := by
  unfold rotateLogIfNeeded
  rw [if_neg (not_not.mpr hstat)]
  dsimp only
  rw [if_neg h]
  by_cases hlength : loggerPathBufferSize ≤ (rotatedPath filePath).length
  · rw [if_pos hlength, if_neg fun hc => absurd hc.1 (Nat.not_lt.mpr hlength)]
  · rw [if_neg hlength]
    by_cases hrename : answers.rename = true
    · rw [if_neg (not_not.mpr hrename), if_pos ⟨Nat.lt_of_not_le hlength, hrename⟩]
    · rw [if_pos hrename, if_neg fun hc => hrename hc.2]

/-- **What a rotation comes to**: the files stay, and if it succeeds then because the log file is
below the limit; or the log file becomes the older generation. -/
theorem rotateLogIfNeeded_cases (filePath : Bytes) (answers : WriteCalls) (limit : UInt64)
    (files : LogFiles) :
    (∃ ok, rotateLogIfNeeded filePath answers limit files = (ok, files) ∧
      (ok = true → (files.current.getD []).length ≤ limit.toNat - 1)) ∨
    ∃ content, files.current = some content ∧
      rotateLogIfNeeded filePath answers limit files = (true, ⟨none, some content⟩) := by
  cases hstat : answers.stat with
  | false => exact .inl ⟨false, rotateLogIfNeeded_of_not_stat hstat, nofun⟩
  | true =>
    obtain ⟨_ | content, rotated⟩ := files
    · refine .inl ⟨true, ?_, fun _ => Nat.zero_le _⟩
      unfold rotateLogIfNeeded
      rw [if_neg (not_not.mpr hstat)]
    by_cases hlt : (content.length : ℤ) < limit.toInt64.toInt
    · have hle := toInt_toInt64_le limit
      refine .inl ⟨true, by rw [rotateLogIfNeeded_of_lt hlt, hstat], fun _ => ?_⟩
      show content.length ≤ _
      omega
    · rw [rotateLogIfNeeded_of_not_lt hstat hlt]
      split_ifs
      · exact .inr ⟨content, rfl, rfl⟩
      · exact .inl ⟨false, rfl, nofun⟩

/-- **Rotation**: what is found to be below the limit stays, and anything else becomes the
older generation. -/
theorem rotateLogIfNeeded_ok
    (h : rotateLogIfNeeded filePath answers limit files = (true, files')) :
    (files' = files ∧ (files.current.getD []).length ≤ limit.toNat - 1) ∨
      ∃ content, files.current = some content ∧ files' = ⟨none, some content⟩ := by
  obtain ⟨ok, hstays, hbelow⟩ | ⟨content, hcontent, hrenamed⟩ :=
    rotateLogIfNeeded_cases filePath answers limit files
  · obtain ⟨rfl, rfl⟩ := Prod.mk.inj (hstays.symm.trans h)
    exact .inl ⟨rfl, hbelow rfl⟩
  · exact .inr ⟨content, hcontent, (Prod.mk.inj (h.symm.trans hrenamed)).2⟩

/-- A rotation that fails leaves the files alone. -/
theorem rotateLogIfNeeded_failed
    (h : rotateLogIfNeeded filePath answers limit files = (false, files')) : files' = files := by
  obtain ⟨ok, hstays, -⟩ | ⟨content, -, hrenamed⟩ :=
    rotateLogIfNeeded_cases filePath answers limit files
  · exact (Prod.mk.inj (h.symm.trans hstays)).2
  · cases (Prod.mk.inj (h.symm.trans hrenamed)).1

/-- What is written is behind what the file held after the rotation, which is below the limit. -/
theorem loggerWrite_ok
    (h : loggerWrite filePath level message answers limit files = (true, files')) :
    ∃ rotated time, rotateLogIfNeeded filePath answers limit files = (true, rotated) ∧
      answers.timeText = some time ∧ files' = { rotated with
        current := some (rotated.current.getD [] ++ logRecord time level message) } := by
  unfold loggerWrite at h
  rcases hrotate : rotateLogIfNeeded filePath answers limit files with ⟨_ | _, rotated⟩
  · rw [hrotate] at h
    cases h
  · rw [hrotate] at h
    cases htime : answers.timeText with
    | none =>
      simp only [htime] at h
      split_ifs at h
      · cases h
      · cases h
    | some time =>
      simp only [htime] at h
      split_ifs at h
      · exact ⟨rotated, time, rfl, rfl, (Prod.mk.inj h).2.symm⟩
      · cases h
      · cases h

/-- A write that fails although no call on a file does has written nothing: the files are left
alone, or the clock could not be read behind the rotation. -/
theorem loggerWrite_failed (hsucceed : (LoggerCall.write level message answers).FilesSucceed)
    (h : loggerWrite filePath level message answers limit files = (false, files')) :
    files' = files ∨ ∃ rotated, rotateLogIfNeeded filePath answers limit files = (true, rotated) ∧
      answers.timeText = none ∧
      files' = { rotated with current := some (rotated.current.getD []) } := by
  obtain ⟨-, -, hopen, hprint, hclose⟩ := hsucceed
  unfold loggerWrite at h
  rcases hrotate : rotateLogIfNeeded filePath answers limit files with ⟨_ | _, rotated⟩
  · rw [hrotate] at h
    obtain rfl := (Prod.mk.inj h).2
    exact .inl (rotateLogIfNeeded_failed hrotate)
  · rw [hrotate] at h
    cases htime : answers.timeText with
    | none =>
      simp only [htime, hopen] at h
      exact .inr ⟨rotated, rfl, rfl, (Prod.mk.inj h).2.symm⟩
    | some time =>
      simp [htime, hopen, hprint, hclose] at h

/-! ### The end of the records -/

/-- A rotation keeps the end of the records. -/
theorem holds_rotateLogIfNeeded {rotated : LogFiles} (hg : files.Holds g)
    (h : rotateLogIfNeeded filePath answers limit files = (true, rotated)) :
    ∃ g' : Generations Bytes, rotated.Holds g' ∧ ∀ records, g.Ends records → g'.Ends records := by
  obtain ⟨rfl, -⟩ | ⟨content, hcontent, rfl⟩ := rotateLogIfNeeded_ok h
  · exact ⟨g, hg, fun _ => id⟩
  · refine ⟨g.rotate, ⟨?_, rfl⟩, fun records hends => hends.rotate⟩
    have hcurrent := hg.2
    rw [hcontent] at hcurrent
    exact hcurrent

/-- A call of `logger_init` leaves the files and the records alone. -/
theorem call_init (l : Log) (filePath : Bytes) (maxSizeBytes : UInt64) (mkdir : Mkdir ℕ) :
    (l.call filePath (.init maxSizeBytes mkdir)).files = l.files ∧
      (l.call filePath (.init maxSizeBytes mkdir)).records = l.records := by
  simp [Log.call, LoggerCall.perform, LoggerCall.record?]

/-- A call of `logger_write` that returns 0 appends its record. -/
theorem call_write_ok {time : Bytes} (htime : answers.timeText = some time)
    (h : loggerWrite filePath level message answers l.currentLogMaxSize l.files = (true, files')) :
    l.call filePath (.write level message answers) =
      ⟨⟨l.currentLogMaxSize, files'⟩, l.records ++ [logRecord time level message]⟩ := by
  simp [Log.call, LoggerCall.perform, LoggerCall.record?, h, htime]

/-- One that returns -1 does not. -/
theorem call_write_failed
    (h : loggerWrite filePath level message answers l.currentLogMaxSize l.files = (false, files')) :
    l.call filePath (.write level message answers) =
      ⟨⟨l.currentLogMaxSize, files'⟩, l.records⟩ := by
  simp [Log.call, LoggerCall.perform, h]

/-- **A call** in which no call on a file fails keeps the end of the records in the files. -/
theorem call_endsRecords {c : LoggerCall} (hc : c.FilesSucceed) (hl : l.EndsRecords) :
    (l.call filePath c).EndsRecords := by
  obtain ⟨g, hg, hends⟩ := hl
  cases c with
  | init maxSizeBytes mkdir =>
    obtain ⟨hfiles, hrecords⟩ := call_init l filePath maxSizeBytes mkdir
    exact ⟨g, by rwa [hfiles], by rwa [hrecords]⟩
  | write level message answers =>
    rcases hw : loggerWrite filePath level message answers l.currentLogMaxSize l.files with
      ⟨_ | _, files'⟩
    · rw [call_write_failed hw]
      obtain rfl | ⟨rotated, hrotate, -, rfl⟩ := loggerWrite_failed hc hw
      · exact ⟨g, hg, hends⟩
      · obtain ⟨g', hg', hkeep⟩ := holds_rotateLogIfNeeded hg hrotate
        exact ⟨g', ⟨hg'.1, hg'.2⟩, hkeep _ hends⟩
    · obtain ⟨rotated, time, hrotate, htime, rfl⟩ := loggerWrite_ok hw
      obtain ⟨g', hg', hkeep⟩ := holds_rotateLogIfNeeded hg hrotate
      rw [call_write_ok htime hw]
      refine ⟨g'.append (logRecord time level message), ⟨hg'.1, ?_⟩, (hkeep _ hends).append _⟩
      show rotated.current.getD [] ++ _ = (g'.newer ++ [_]).flatten
      rw [hg'.2, List.flatten_append, List.flatten_singleton]

/-- The newest record is the end of the log file, if a record has been appended since
`records`. -/
def Log.NewestLast (l : Log) (records : List Bytes) : Prop :=
  l.records = records ∨
    ∃ record, l.records.getLast? = some record ∧ record <:+ l.files.current.getD []

/-- A call that can also read the clock keeps the newest record at the end of the log file. -/
theorem call_newestLast {records : List Bytes} {c : LoggerCall} (hc : c.FilesSucceed)
    (hclock : c.ReadsClock) (hl : l.NewestLast records) :
    (l.call filePath c).NewestLast records := by
  cases c with
  | init maxSizeBytes mkdir =>
    obtain ⟨hfiles, hrecords⟩ := call_init l filePath maxSizeBytes mkdir
    unfold Log.NewestLast
    rwa [hfiles, hrecords]
  | write level message answers =>
    rcases hw : loggerWrite filePath level message answers l.currentLogMaxSize l.files with
      ⟨_ | _, files'⟩
    · rw [call_write_failed hw]
      obtain rfl | ⟨rotated, -, htime, -⟩ := loggerWrite_failed hc hw
      · exact hl
      · change answers.timeText.isSome = true at hclock
        rw [htime] at hclock
        cases hclock
    · obtain ⟨rotated, time, -, htime, rfl⟩ := loggerWrite_ok hw
      rw [call_write_ok htime hw]
      exact .inr ⟨_, List.getLast?_concat, List.suffix_append _ _⟩

/-! ### Sequences of calls -/

/-- What a call of `logger_write` that returns 0 has written is the end of the log file, whose
size is below the limit but for the record. -/
def Log.WritesWithinLimit (filePath : Bytes) (l : Log) : Prop :=
  ∀ level message answers files', loggerWrite filePath level message answers l.currentLogMaxSize
    l.files = (true, files') → ∃ content record,
      (LoggerCall.write level message answers).record? = some record ∧
      files'.current = some (content ++ record) ∧
      (content ++ record).length ≤ l.currentLogMaxSize.toNat - 1 + record.length

theorem writesWithinLimit (filePath : Bytes) (l : Log) : l.WritesWithinLimit filePath := by
  intro level message answers files' h
  obtain ⟨rotated, time, hrotate, htime, rfl⟩ := loggerWrite_ok h
  refine ⟨rotated.current.getD [], logRecord time level message, ?_, rfl, ?_⟩
  · rw [LoggerCall.record?, htime, Option.map_some]
  · rw [List.length_append]
    obtain ⟨rfl, hlength⟩ | ⟨content, -, rfl⟩ := rotateLogIfNeeded_ok hrotate
    · omega
    · simp

/-- What every call of a sequence keeps holds behind it. -/
theorem run_keeps {I : Log → Prop} (keep : ∀ l, ∀ c ∈ calls, I l → I (l.call filePath c))
    (h : I l) : I (l.run filePath calls) :=
  List.foldlRecOn calls _ h fun l hl c hc => keep l c hc hl

/-- **The log over its rotations**: in every sequence of calls in which no call on a file
fails, the file behind the log file and the log file together hold the end of all the records
that were ever appended; a record that is written is the end of the log file, which is no
larger than the limit in effect allows; and the newest record stays the end of the log file,
if the clock can always be read. -/
theorem log_kept (filePath : Bytes) (l : Log) (calls : List LoggerCall) (hl : l.EndsRecords)
    (hcalls : ∀ c ∈ calls, c.FilesSucceed) :
    (l.run filePath calls).EndsRecords ∧ (l.run filePath calls).WritesWithinLimit filePath ∧
      ((∀ c ∈ calls, c.ReadsClock) → (l.run filePath calls).NewestLast l.records) := by
  refine ⟨?_, writesWithinLimit _ _, fun hclock => ?_⟩
  · exact run_keeps (fun k c hc hk => call_endsRecords (hcalls c hc) hk) hl
  · exact run_keeps (I := fun k => k.NewestLast l.records)
      (fun k c hc hk => call_newestLast (hcalls c hc) (hclock c hc) hk) (.inl rfl)

/-- Nothing has been logged yet. -/
def Log.empty : Log := ⟨⟨loggerDefaultMaxSizeBytes, ⟨none, none⟩⟩, []⟩

theorem Log.endsRecords_empty : Log.empty.EndsRecords :=
  ⟨⟨[], []⟩, ⟨rfl, rfl⟩, List.suffix_rfl⟩

/-- Every call succeeds, but perhaps that the time cannot be found out. -/
def writeAnswers (timeText : Option Bytes) : WriteCalls :=
  ⟨true, true, true, timeText, true, true, 0⟩

/-- A limit of one byte, and two records; the second one has this time. -/
def twoRecords (timeText : Option Bytes) : List LoggerCall :=
  [.init 1 fun _ n => (.created, n),
    .write (ascii "INFO") (ascii "a") (writeAnswers (some (ascii "1"))),
    .write (ascii "INFO") (ascii "b") (writeAnswers timeText)]

theorem filesSucceed_twoRecords (timeText : Option Bytes) :
    ∀ c ∈ twoRecords timeText, c.FilesSucceed := by
  simp [twoRecords, LoggerCall.FilesSucceed, writeAnswers]

/-- The second record rotates the first one away. -/
theorem log_kept_twoRecords :
    (Log.empty.run (ascii "log") (twoRecords (some (ascii "2")))).EndsRecords ∧
      (Log.empty.run (ascii "log") (twoRecords (some (ascii "2")))).NewestLast [] := by
  have h := log_kept (ascii "log") .empty (twoRecords (some (ascii "2"))) Log.endsRecords_empty
    (filesSucceed_twoRecords _)
  exact ⟨h.1, h.2.2 (by simp [twoRecords, LoggerCall.ReadsClock, writeAnswers])⟩

/-- If the time of the second record cannot be found out, the log file is left empty, and the
newest record is in the file behind it. -/
theorem newest_record_rotated_away : ¬ ∀ (filePath : Bytes) (l : Log) (calls : List LoggerCall),
    l.EndsRecords → (∀ c ∈ calls, c.FilesSucceed) →
    (l.run filePath calls).EndsRecords ∧ (l.run filePath calls).WritesWithinLimit filePath ∧
      (l.run filePath calls).NewestLast l.records := by
  intro h
  obtain ⟨-, -, hnewest⟩ := h (ascii "log") .empty (twoRecords none) Log.endsRecords_empty
    (filesSucceed_twoRecords _)
  have hrecords : (Log.empty.run (ascii "log") (twoRecords none)).records =
      [ascii "[1] [INFO] a\n"] := by decide +kernel
  have hfiles : (Log.empty.run (ascii "log") (twoRecords none)).files =
      ⟨some [], some (ascii "[1] [INFO] a\n")⟩ := by decide +kernel
  unfold Log.NewestLast at hnewest
  rw [hrecords, hfiles] at hnewest
  rcases hnewest with hnone | ⟨record, hlast, hsuffix⟩
  · cases hnone
  · obtain rfl := Option.some.inj hlast
    exact absurd hsuffix (by decide)

end EdgeSentinel.Monitor
