import EdgeSentinel.Encoding.LineFormat
import EdgeSentinel.Encoding.Reading
import EdgeSentinel.Monitor.MainLoop

/-!
# The text of the log

Eight kinds of records go into the log, each with a text of its own that is put together by
`snprintf` in another place of `main.c`. The names of processes stand in it as they are.

## The model

* `LogEntry` — what a record says, with the level and the message that the source makes of it.
* `LogReading` — what a reader is to see of it: a number as it is printed, with two decimals.
* `readMessage`, `logLines` — the reader of a message, and of a line of the log with its time.

## What is proved

* `readMessage_message` — **a message is read back**, whatever the name of a process is.
* `legible_logLines` — so is a line of the log, and it is one line if the names are.
-/

namespace EdgeSentinel.Monitor

open CLib Encoding

/-! ### Records -/

/-- What a record of the log says. -/
inductive LogEntry where
  /-- `EdgeSentinel started`. -/
  | started
  /-- The level of the memory of a process has changed. -/
  | processMemory (previous level : AlertLevel) (pid : Int32) (memoryMib : ℚ)
  /-- The level of the CPU usage of a process has changed. -/
  | processCpu (previous level : AlertLevel) (pid : Int32) (cpuUsage : ℚ)
  /-- A process has become available. -/
  | recovered (info : ProcessInfo)
  /-- A process has become unavailable. -/
  | unavailable (pid : Int32)
  /-- The level of the system has changed. -/
  | systemStatus (previous level : AlertLevel) (cpuUsage memoryUsage diskUsage : ℚ)
  /-- The percentages of every tenth round. -/
  | periodic (level : AlertLevel) (cpuUsage memoryUsage diskUsage : ℚ)
  /-- `EdgeSentinel stopped safely`. -/
  | stopped

namespace LogEntry

/-- The level of a record. -/
def level : LogEntry → Bytes
  | .started | .recovered _ | .stopped => ascii "INFO"
  | .unavailable _ => ascii "WARNING"
  | .processMemory _ level _ _ | .processCpu _ level _ _ | .systemStatus _ level _ _ _ |
    .periodic level _ _ _ => alertLevelToString level

/-- The message of a record. -/
def message : LogEntry → Bytes
  | .started => ascii "EdgeSentinel started"
  | .processMemory previous level pid memoryMib =>
    memoryLogMessage previous level pid (.finite memoryMib)
  | .processCpu previous level pid cpuUsage => cpuLogMessage previous level pid (.finite cpuUsage)
  | .recovered info => ascii "Monitored process recovered: PID=" ++ decimalInt info.pid.toInt ++
      ascii " Name=" ++ info.name.bytes ++ ascii " State=" ++ info.state.bytes ++
      ascii " Memory=" ++ decimal info.residentMemoryKb.toNat ++ ascii " kB"
  | .unavailable pid => ascii "Monitored process unavailable: PID=" ++ decimalInt pid.toInt
  | .systemStatus previous level cpuUsage memoryUsage diskUsage =>
    ascii "System status changed: " ++ alertLevelToString previous ++ ascii " -> " ++
      alertLevelToString level ++ ascii " " ++
      percentagesMessage (.finite cpuUsage) (.finite memoryUsage) (.finite diskUsage)
  | .periodic _ cpuUsage memoryUsage diskUsage =>
    percentagesMessage (.finite cpuUsage) (.finite memoryUsage) (.finite diskUsage)
  | .stopped => ascii "EdgeSentinel stopped safely"

/-- The names that stand in the message are on one line. -/
def OneLine : LogEntry → Prop
  | .recovered info => newline ∉ info.name.bytes ∧ newline ∉ info.state.bytes
  | _ => True

end LogEntry

/-- What a reader sees of a record. Where the name of a process ends and its state begins is not
to be seen. -/
inductive LogReading where
  /-- The start. -/
  | started
  /-- A change of the level of the memory of a process. -/
  | processMemory (previous level : AlertLevel) (pid memoryMib : ℚ)
  /-- A change of the level of its CPU usage. -/
  | processCpu (previous level : AlertLevel) (pid cpuUsage : ℚ)
  /-- A process that has become available. -/
  | recovered (pid : ℚ) (nameAndState : Bytes) (memoryKb : ℚ)
  /-- A process that has become unavailable. -/
  | unavailable (pid : ℚ)
  /-- A change of the level of the system. -/
  | systemStatus (previous level : AlertLevel) (cpuUsage memoryUsage diskUsage : ℚ)
  /-- Percentages. -/
  | periodic (cpuUsage memoryUsage diskUsage : ℚ)
  /-- The end. -/
  | stopped
  deriving DecidableEq, Repr

/-- What a reader is to see of a record. -/
def LogEntry.reading : LogEntry → LogReading
  | .started => .started
  | .processMemory previous level pid memoryMib =>
    .processMemory previous level pid.toInt (round2 memoryMib)
  | .processCpu previous level pid cpuUsage =>
    .processCpu previous level pid.toInt (round2 cpuUsage)
  | .recovered info => .recovered info.pid.toInt
      (info.name.bytes ++ ascii " State=" ++ info.state.bytes) info.residentMemoryKb.toNat
  | .unavailable pid => .unavailable pid.toInt
  | .systemStatus previous level cpuUsage memoryUsage diskUsage =>
    .systemStatus previous level (round2 cpuUsage) (round2 memoryUsage) (round2 diskUsage)
  | .periodic _ cpuUsage memoryUsage diskUsage =>
    .periodic (round2 cpuUsage) (round2 memoryUsage) (round2 diskUsage)
  | .stopped => .stopped

/-! ### The reader -/

/-- What a message can begin with. -/
inductive LogWord where
  /-- The start. -/
  | started
  /-- A change of the level of the memory of a process. -/
  | processMemory
  /-- A change of the level of its CPU usage. -/
  | processCpu
  /-- A process that has become available. -/
  | recovered
  /-- A process that has become unavailable. -/
  | unavailable
  /-- A change of the level of the system. -/
  | systemStatus
  /-- Percentages. -/
  | periodic
  /-- The end. -/
  | stopped

/-- The beginnings of messages. -/
def LogWord.text : LogWord → Bytes
  | .started => ascii "EdgeSentinel started"
  | .processMemory => ascii "Process memory status changed: "
  | .processCpu => ascii "Process CPU status changed: "
  | .recovered => ascii "Monitored process recovered: PID="
  | .unavailable => ascii "Monitored process unavailable: PID="
  | .systemStatus => ascii "System status changed: "
  | .periodic => ascii "CPU="
  | .stopped => ascii "EdgeSentinel stopped safely"

/-- All of them. -/
def logWords : List (Bytes × LogWord) :=
  [.started, .processMemory, .processCpu, .recovered, .unavailable, .systemStatus, .periodic,
    .stopped].map fun w => (w.text, w)

/-- The names of the levels. -/
def levelWords : List (Bytes × AlertLevel) :=
  [.normal, .warning, .critical].map fun level => (alertLevelToString level, level)

/-- The levels before and behind a change. -/
def readChange (s : Bytes) : Option ((AlertLevel × AlertLevel) × Bytes) := do
  let (previous, s) ← readWord levelWords s
  let (level, s) ← readWord levelWords (← scanLiteral (ascii " -> ") s)
  some ((previous, level), s)

/-- The percentages, behind the name of the first one. -/
def readPercentages (s : Bytes) : Option (ℚ × ℚ × ℚ) := do
  let (cpuUsage, s) ← readNumber s
  let (memoryUsage, s) ← readNumber (← scanLiteral (ascii "% Memory=") s)
  let (diskUsage, s) ← readNumber (← scanLiteral (ascii "% Disk=") s)
  if s = ascii "%" then some (cpuUsage, memoryUsage, diskUsage) else none

/-- The reader of a message. -/
def readMessage (s : Bytes) : Option LogReading := do
  let (word, s) ← readWord logWords s
  match word with
  | .started => if s = [] then some .started else none
  | .processMemory => do
    let ((previous, level), s) ← readChange s
    let (pid, s) ← readNumber (← scanLiteral (ascii " PID=") s)
    let (memoryMib, s) ← readNumber (← scanLiteral (ascii " Memory=") s)
    if s = ascii " MiB" then some (.processMemory previous level pid memoryMib) else none
  | .processCpu => do
    let ((previous, level), s) ← readChange s
    let (pid, s) ← readNumber (← scanLiteral (ascii " PID=") s)
    let (cpuUsage, s) ← readNumber (← scanLiteral (ascii " CPU=") s)
    if s = ascii "%" then some (.processCpu previous level pid cpuUsage) else none
  | .recovered => do
    let (pid, s) ← readNumber s
    -- a name can have anything in it, so the memory is looked for from the end
    let (nameAndState, s) ← readLast (ascii " Memory") 0x3d (← scanLiteral (ascii " Name=") s)
    let (memoryKb, s) ← readNumber s
    if s = ascii " kB" then some (.recovered pid nameAndState memoryKb) else none
  | .unavailable => do
    let (pid, s) ← readNumber s
    if s = [] then some (.unavailable pid) else none
  | .systemStatus => do
    let ((previous, level), s) ← readChange s
    let (cpuUsage, memoryUsage, diskUsage) ← readPercentages (← scanLiteral (ascii " CPU=") s)
    some (.systemStatus previous level cpuUsage memoryUsage diskUsage)
  | .periodic => do
    let (cpuUsage, memoryUsage, diskUsage) ← readPercentages s
    some (.periodic cpuUsage memoryUsage diskUsage)
  | .stopped => if s = [] then some .stopped else none

/-- A line of the log: its time, its level and its message. -/
def readLogLine (s : Bytes) : Option (Bytes × Bytes × LogReading) := do
  let (time, s) ← strchr 0x5d (← scanLiteral (ascii "[") s)
  let (level, s) ← strchr 0x5d (← scanLiteral (ascii " [") s)
  let reading ← readMessage (← scanLiteral (ascii " ") s)
  some (time, level, reading)

/-- A record with its time, on a line. -/
def logLines : LineFormat (Bytes × LogEntry) (Bytes × Bytes × LogReading) where
  write := fun e => ascii "[" ++ e.1 ++ ascii "] [" ++ e.2.level ++ ascii "] " ++ e.2.message
  view := fun e => (e.1, e.2.level, e.2.reading)
  read := readLogLine

/-! ### Reading back -/

theorem readWord_logWords (w : LogWord) (t : Bytes) :
    readWord logWords (w.text ++ t) = some (w, t) := by
  cases w <;> rfl

theorem readWord_levelWords (level : AlertLevel) (t : Bytes) :
    readWord levelWords (alertLevelToString level ++ t) = some (level, t) := by
  cases level <;> rfl

theorem readChange_change (previous level : AlertLevel) (t : Bytes) :
    readChange (alertLevelToString previous ++ (ascii " -> " ++ (alertLevelToString level ++ t))) =
      some ((previous, level), t) := by
  simp only [readChange, readWord_levelWords, Json.scanLiteral_append, Option.bind_eq_bind,
    Option.bind_some]

/-- A number is read up to the word behind it. -/
theorem readNumber_word (word : Bytes) (h : word.head?.any (fun b => ! Json.isNumberByte b) = true)
    (t : Bytes) :
    (∀ n : ℕ, readNumber (decimal n ++ (word ++ t)) = some ((n : ℚ), word ++ t)) ∧
    (∀ z : ℤ, readNumber (decimalInt z ++ (word ++ t)) = some ((z : ℚ), word ++ t)) ∧
    ∀ q : ℚ, readNumber (fixed2 (.finite q) ++ (word ++ t)) = some (round2 q, word ++ t) :=
  ⟨fun n => readNumber_decimal n (numberEnds_word h t),
    fun z => readNumber_decimalInt z (numberEnds_word h t),
    fun _ => readNumber_fixed2 rfl (numberEnds_word h t)⟩

/-- It is read up to the word at the end of the text. -/
theorem readNumber_lastWord (word : Bytes)
    (h : word.head?.any (fun b => ! Json.isNumberByte b) = true) :
    (∀ n : ℕ, readNumber (decimal n ++ word) = some ((n : ℚ), word)) ∧
    ∀ q : ℚ, readNumber (fixed2 (.finite q) ++ word) = some (round2 q, word) := by
  have hword := readNumber_word word h []
  rw [List.append_nil] at hword
  exact ⟨hword.1, hword.2.2⟩

/-- The percentages of a message are read back. -/
theorem readPercentages_percentages (cpuUsage memoryUsage diskUsage : ℚ) :
    readPercentages (fixed2 (.finite cpuUsage) ++ (ascii "% Memory=" ++
      (fixed2 (.finite memoryUsage) ++ (ascii "% Disk=" ++ (fixed2 (.finite diskUsage) ++
        ascii "%"))))) = some (round2 cpuUsage, round2 memoryUsage, round2 diskUsage) := by
  have hcpu := fun t => (readNumber_word (ascii "% Memory=") (by decide) t).2.2
  have hmemory := fun t => (readNumber_word (ascii "% Disk=") (by decide) t).2.2
  have hdisk := (readNumber_lastWord (ascii "%") (by decide)).2
  simp only [readPercentages, hcpu, hmemory, hdisk, Json.scanLiteral_append, Option.bind_eq_bind,
    Option.bind_some, if_true]

/-- **A message is read back.** -/
theorem readMessage_message (e : LogEntry) : readMessage e.message = some e.reading := by
  have hpid := fun word h t => (readNumber_word word h t).2.1
  cases e with
  | started | stopped => rfl
  | processMemory previous level pid memoryMib =>
    have hword := readWord_logWords .processMemory
    have hmemory := (readNumber_lastWord (ascii " MiB") (by decide)).2
    simp only [LogWord.text] at hword
    simp only [LogEntry.message, memoryLogMessage, List.append_assoc, readMessage, hword,
      readChange_change, hpid (ascii " Memory=") (by decide), hmemory, Json.scanLiteral_append,
      Option.bind_eq_bind, Option.bind_some, if_true, LogEntry.reading]
  | processCpu previous level pid cpuUsage =>
    have hword := readWord_logWords .processCpu
    have hcpu := (readNumber_lastWord (ascii "%") (by decide)).2
    simp only [LogWord.text] at hword
    simp only [LogEntry.message, cpuLogMessage, List.append_assoc, readMessage, hword,
      readChange_change, hpid (ascii " CPU=") (by decide), hcpu, Json.scanLiteral_append,
      Option.bind_eq_bind, Option.bind_some, if_true, LogEntry.reading]
  | recovered info =>
    have hword := readWord_logWords .recovered
    have hmemory := (readNumber_lastWord (ascii " kB") (by decide)).1
    have hunit : (0x3d : UInt8) ∉ decimal info.residentMemoryKb.toNat ++ ascii " kB" := by
      have hnumber := (not_mem_number (b := 0x3d) rfl).1
      simp only [List.mem_append, hnumber, false_or]
      decide
    have hcut : readLast (ascii " Memory") 0x3d (info.name.bytes ++ (ascii " State=" ++
        (info.state.bytes ++ (ascii " Memory=" ++
          (decimal info.residentMemoryKb.toNat ++ ascii " kB"))))) =
        some (info.name.bytes ++ (ascii " State=" ++ info.state.bytes),
          decimal info.residentMemoryKb.toNat ++ ascii " kB") := by
      have hlast := readLast_append (ascii " Memory") hunit
        (info.name.bytes ++ (ascii " State=" ++ info.state.bytes))
      simp only [List.append_assoc] at hlast
      exact hlast
    simp only [LogWord.text] at hword
    simp only [LogEntry.message, List.append_assoc, readMessage, hword,
      hpid (ascii " Name=") (by decide), hcut, hmemory, Json.scanLiteral_append,
      Option.bind_eq_bind, Option.bind_some, if_true, LogEntry.reading]
  | unavailable pid =>
    have hword := readWord_logWords .unavailable
    have hnumber := readNumber_decimalInt pid.toInt numberEnds_nil
    rw [List.append_nil] at hnumber
    simp only [LogWord.text] at hword
    simp only [LogEntry.message, readMessage, hword, hnumber, Option.bind_eq_bind, Option.bind_some,
      if_true, LogEntry.reading]
  | systemStatus previous level cpuUsage memoryUsage diskUsage =>
    have hword := readWord_logWords .systemStatus
    simp only [LogWord.text] at hword
    have hcpu : ∀ t, scanLiteral (ascii " CPU=") (ascii " " ++ (ascii "CPU=" ++ t)) = some t :=
      Json.scanLiteral_append (ascii " CPU=")
    simp only [LogEntry.message, percentagesMessage, List.append_assoc, readMessage, hword,
      readChange_change, hcpu, readPercentages_percentages, Option.bind_eq_bind, Option.bind_some,
      LogEntry.reading]
  | periodic level cpuUsage memoryUsage diskUsage =>
    have hword := readWord_logWords .periodic
    simp only [LogWord.text] at hword
    simp only [LogEntry.message, percentagesMessage, List.append_assoc, readMessage, hword,
      readPercentages_percentages, Option.bind_eq_bind, Option.bind_some, LogEntry.reading]

/-- A message is one line if the names in it are. -/
theorem newline_not_mem_message {e : LogEntry} (h : e.OneLine) : newline ∉ e.message := by
  obtain ⟨hdecimal, hdecimalInt, hfixed2⟩ := not_mem_number (b := newline) rfl
  have hlevel : ∀ level, newline ∉ alertLevelToString level := by
    intro level
    cases level <;> decide
  cases e with
  | started | stopped => decide
  | recovered info =>
    obtain ⟨hname, hstate⟩ := h
    simp [LogEntry.message, hdecimal, hdecimalInt, hname, hstate]
    decide
  | _ =>
    simp [LogEntry.message, memoryLogMessage, cpuLogMessage, percentagesMessage, hdecimalInt,
      hfixed2, hlevel]
    decide

/-- The level of a record is one of four words. -/
theorem level_cases (e : LogEntry) :
    e.level = ascii "INFO" ∨ e.level = ascii "NORMAL" ∨ e.level = ascii "WARNING" ∨
      e.level = ascii "CRITICAL" := by
  have halert : ∀ level, alertLevelToString level = ascii "NORMAL" ∨
      alertLevelToString level = ascii "WARNING" ∨ alertLevelToString level = ascii "CRITICAL" := by
    intro level
    cases level with
    | normal => exact .inl rfl
    | warning => exact .inr (.inl rfl)
    | critical => exact .inr (.inr rfl)
  cases e with
  | started | recovered | stopped => exact .inl rfl
  | unavailable => exact .inr (.inr (.inl rfl))
  | processMemory _ level | processCpu _ level | systemStatus _ level | periodic level =>
    exact .inr (halert level)

/-- It has no bracket, and is on one line. -/
theorem not_mem_level (e : LogEntry) : 0x5d ∉ e.level ∧ newline ∉ e.level := by
  rcases level_cases e with h | h | h | h <;> rw [h] <;> decide

/-- **A line of the log** is one line, and read back, if its time is one line without a bracket. -/
theorem legible_logLines {time : Bytes} {e : LogEntry} (hnewline : newline ∉ time)
    (hbracket : 0x5d ∉ time) (h : e.OneLine) : logLines.Legible (time, e) where
  read_write := by
    have htime : ∀ t, strchr 0x5d (time ++ (ascii "] [" ++ t)) = some (time, ascii " [" ++ t) :=
      fun t => strchr_eq_some_iff.mpr ⟨rfl, hbracket⟩
    have hlevel : ∀ t, strchr 0x5d (e.level ++ (ascii "] " ++ t)) =
        some (e.level, ascii " " ++ t) :=
      fun t => strchr_eq_some_iff.mpr ⟨rfl, (not_mem_level e).1⟩
    show readLogLine _ = _
    simp only [logLines, List.append_assoc, readLogLine, htime, hlevel, Json.scanLiteral_append,
      readMessage_message, Option.bind_eq_bind, Option.bind_some]
  newline_not_mem := by
    simp [logLines, hnewline, (not_mem_level e).2, newline_not_mem_message h]
    decide

end EdgeSentinel.Monitor
