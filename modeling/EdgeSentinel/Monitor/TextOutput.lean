import EdgeSentinel.Monitor.LogText
import EdgeSentinel.Monitor.Output
import EdgeSentinel.Monitor.Readings

/-!
# The text output

The branch of the loop for `--output text`: a round is printed by about twenty calls of `printf`,
each of which prints a line. The names and the states of processes stand in the lines as they are.

## The model

* `TextLine` — a call of `printf`, with what it is given. The numbers are of any type: what is
  printed is a `TextLine Double`, and what a reader is to see of it a `TextLine ℚ`.
* `TextLine.text` — the line that is printed.
* `linesOfRound` — the calls of a round, one after the other.
* `textLines`, `readTextLine` — the format of the lines, with its reader.

## What is proved

* `legible_textLines` — **a line is read back**, and it is one line, if its numbers are finite and
  the strings in it are on one line.
-/

namespace EdgeSentinel.Monitor

open CLib Config Encoding

/-! ### What is printed -/

/-- What a usage is of. -/
inductive UsageKind where
  /-- `cpu_usage`. -/
  | cpu
  /-- `memory_info.usage_percent`. -/
  | memory
  /-- `disk_info.usage_percent`. -/
  | disk
  deriving DecidableEq, Repr

/-- Which part of the disk. -/
inductive DiskPart where
  /-- `disk_info.total_bytes`. -/
  | total
  /-- `disk_info.used_bytes`. -/
  | used
  /-- `disk_info.available_bytes`. -/
  | available
  deriving DecidableEq, Repr

/-- A direction of the network. -/
inductive Direction where
  /-- Received. -/
  | download
  /-- Sent. -/
  | upload
  deriving DecidableEq, Repr

/-- A call of `printf` in the branch for the text output. -/
inductive TextLine (ν : Type) where
  /-- `Updated:`. -/
  | updated (t : CurrentTime)
  /-- `System Uptime:`. -/
  | uptime (days hours minutes seconds : ℕ)
  /-- `Load Average:`. -/
  | loadAverage (oneMinute fiveMinutes fifteenMinutes : ν)
  /-- `CPU Usage:`, `Memory Usage:` or `Disk Usage:`. -/
  | usage (kind : UsageKind) (percent : ν) (level : AlertLevel)
  /-- `System Status:`. -/
  | systemStatus (level : AlertLevel)
  /-- `Process[i]:` of a process that is available. -/
  | process (index : ℕ) (name : Bytes) (pid parentPid : ℤ)
  /-- Its state. -/
  | processState (state : Bytes)
  /-- Its memory. -/
  | processMemory (memoryMib : ν) (level : AlertLevel)
  /-- Its CPU usage. -/
  | processCpu (cpuUsage : ν) (level : AlertLevel)
  /-- It has been sampled once. -/
  | processCpuCollecting
  /-- It could not be sampled. -/
  | processCpuUnavailable
  /-- `Process[i]:` of a process that is not available. -/
  | processUnavailable (index : ℕ) (target : Bytes) (pid : ℤ)
  /-- `Disk Total:`, `Disk Used:` or `Disk Available:`. -/
  | diskSize (part : DiskPart) (gib : ν)
  /-- `Network RX Total:` or `Network TX Total:`. -/
  | networkTotal (direction : Direction) (mib : ν)
  /-- `Download Speed:` or `Upload Speed:`. -/
  | speed (direction : Direction) (value : ν) (unit : Bytes)
  /-- The line between two rounds. -/
  | separator
  deriving DecidableEq, Repr

/-- What a line begins with. -/
inductive TextWord where
  /-- `Updated:`. -/
  | updated
  /-- `System Uptime:`. -/
  | uptime
  /-- `Load Average:`. -/
  | loadAverage
  /-- A usage. -/
  | usage (kind : UsageKind)
  /-- `System Status:`. -/
  | systemStatus
  /-- `Process[`. -/
  | process
  /-- The state of a process. -/
  | processState
  /-- Its memory. -/
  | processMemory
  /-- Its CPU usage. -/
  | processCpu
  /-- It has been sampled once. -/
  | processCpuCollecting
  /-- It could not be sampled. -/
  | processCpuUnavailable
  /-- A size of the disk. -/
  | diskSize (part : DiskPart)
  /-- A total of the network. -/
  | networkTotal (direction : Direction)
  /-- A speed. -/
  | speed (direction : Direction)
  /-- The line between two rounds. -/
  | separator
  deriving DecidableEq, Repr

/-- The beginnings of lines. -/
def TextWord.text : TextWord → Bytes
  | .updated => ascii "Updated:          "
  | .uptime => ascii "System Uptime:    "
  | .loadAverage => ascii "Load Average:     "
  | .usage .cpu => ascii "CPU Usage:        "
  | .usage .memory => ascii "Memory Usage:     "
  | .usage .disk => ascii "Disk Usage:       "
  | .systemStatus => ascii "System Status:           ["
  | .process => ascii "Process["
  | .processState => ascii "  State:           "
  | .processMemory => ascii "  Memory:          "
  | .processCpu => ascii "  CPU:             "
  | .processCpuCollecting => ascii "  CPU:            [COLLECTING]"
  | .processCpuUnavailable => ascii "  CPU:            [UNAVAILABLE]"
  | .diskSize .total => ascii "Disk Total:       "
  | .diskSize .used => ascii "Disk Used:        "
  | .diskSize .available => ascii "Disk Available:   "
  | .networkTotal .download => ascii "Network RX Total: "
  | .networkTotal .upload => ascii "Network TX Total: "
  | .speed .download => ascii "Download Speed:   "
  | .speed .upload => ascii "Upload Speed:     "
  | .separator => ascii "---------------------------------"

/-- `%04d-%02d-%02d %02d:%02d:%02d`. -/
def printDateTime (t : CurrentTime) : Bytes :=
  padded 4 t.year.toInt ++ ascii "-" ++ padded 2 t.month.toInt ++ ascii "-" ++
    padded 2 t.day.toInt ++ ascii " " ++ padded 2 t.hour.toInt ++ ascii ":" ++
    padded 2 t.minute.toInt ++ ascii ":" ++ padded 2 t.second.toInt

/-- The line that a call of `printf` prints, without its newline. -/
def TextLine.text : TextLine Double → Bytes
  | .updated t => TextWord.updated.text ++ printDateTime t
  | .uptime days hours minutes seconds => TextWord.uptime.text ++ decimal days ++ ascii " days " ++
      decimal hours ++ ascii " hours " ++ decimal minutes ++ ascii " minutes " ++
      decimal seconds ++ ascii " seconds"
  | .loadAverage oneMinute fiveMinutes fifteenMinutes => TextWord.loadAverage.text ++
      fixed2 oneMinute ++ ascii "  " ++ fixed2 fiveMinutes ++ ascii "  " ++ fixed2 fifteenMinutes
  | .usage kind percent level => (TextWord.usage kind).text ++ padLeft 6 (fixed2 percent) ++
      ascii "% [" ++ alertLevelToString level ++ ascii "]"
  | .systemStatus level => TextWord.systemStatus.text ++ alertLevelToString level ++ ascii "]"
  | .process index name pid parentPid => TextWord.process.text ++ decimal index ++
      ascii "]:       " ++ name ++ ascii " PID=" ++ decimalInt pid ++ ascii " PPID=" ++
      decimalInt parentPid
  | .processState state => TextWord.processState.text ++ state
  | .processMemory memoryMib level => TextWord.processMemory.text ++ fixed2 memoryMib ++
      ascii " MiB [" ++ alertLevelToString level ++ ascii "]"
  | .processCpu cpuUsage level => TextWord.processCpu.text ++ fixed2 cpuUsage ++ ascii "% [" ++
      alertLevelToString level ++ ascii "]"
  | .processCpuCollecting => TextWord.processCpuCollecting.text
  | .processCpuUnavailable => TextWord.processCpuUnavailable.text
  | .processUnavailable index target pid => TextWord.process.text ++ decimal index ++
      ascii "]:       " ++ target ++ ascii " PID=" ++ decimalInt pid ++ ascii " [UNAVAILABLE]"
  | .diskSize part gib => (TextWord.diskSize part).text ++ padLeft 6 (fixed2 gib) ++ ascii " GiB"
  | .networkTotal direction mib => (TextWord.networkTotal direction).text ++
      padLeft 8 (fixed2 mib) ++ ascii " MiB"
  | .speed direction value unit => (TextWord.speed direction).text ++ padLeft 8 (fixed2 value) ++
      ascii " " ++ padRight 4 unit
  | .separator => TextWord.separator.text

/-- `BYTES_PER_GIB`. -/
def bytesPerGib : ℚ := 1073741824

/-- `BYTES_PER_MIB`. -/
def bytesPerMib : ℚ := 1048576

/-- The lines of a process. -/
def linesOfProcess (index : ℕ) (p : MonitoredProcess) : List (TextLine Double) :=
  if p.available then
    [.process index p.info.name.bytes p.info.pid.toInt p.info.parentPid.toInt,
      .processState p.info.state.bytes,
      .processMemory p.memoryMib p.memoryLevel,
      if p.cpuUsageValid then .processCpu p.cpuUsage p.cpuLevel
      else if p.cpuSampleInitialized then .processCpuCollecting
      else .processCpuUnavailable]
  else
    [.processUnavailable index
      (if p.targetName.bytes ≠ [] then p.targetName.bytes else ascii "(PID target)")
      p.currentPid.toInt]

/-- The lines of a round, as they are printed. -/
def linesOfRound (r : Readings) : List (TextLine Double) :=
  [.updated r.snapshot.currentTime,
    .uptime r.snapshot.uptime.days.toNat r.snapshot.uptime.hours.toNat
      r.snapshot.uptime.minutes.toNat r.snapshot.uptime.seconds.toNat,
    .loadAverage r.snapshot.loadAverage.oneMinute r.snapshot.loadAverage.fiveMinutes
      r.snapshot.loadAverage.fifteenMinutes,
    .usage .cpu r.snapshot.cpuUsagePercent r.snapshot.cpuLevel,
    .usage .memory r.snapshot.memoryUsagePercent r.snapshot.memoryLevel,
    .usage .disk r.snapshot.diskUsagePercent r.snapshot.diskLevel,
    .systemStatus r.snapshot.systemLevel] ++
  r.snapshot.processes.zipIdx.flatMap (fun p => linesOfProcess p.2 p.1) ++
  [.diskSize .total (.finite (r.snapshot.totalDiskBytes.toNat / bytesPerGib)),
    .diskSize .used (.finite (r.snapshot.usedDiskBytes.toNat / bytesPerGib)),
    .diskSize .available (.finite (r.snapshot.availableDiskBytes.toNat / bytesPerGib)),
    .networkTotal .download (.finite (r.snapshot.networkReceiveTotalBytes.toNat / bytesPerMib)),
    .networkTotal .upload (.finite (r.snapshot.networkTransmitTotalBytes.toNat / bytesPerMib)),
    .speed .download r.download.value r.download.unit,
    .speed .upload r.upload.value r.upload.unit,
    .separator]

/-! ### The reader -/

/-- The words that a line can begin with. -/
def textWords : List (Bytes × TextWord) :=
  [.updated, .uptime, .loadAverage, .usage .cpu, .usage .memory, .usage .disk, .systemStatus,
    .process, .processState, .processMemory, .processCpu, .processCpuCollecting,
    .processCpuUnavailable, .diskSize .total, .diskSize .used, .diskSize .available,
    .networkTotal .download, .networkTotal .upload, .speed .download, .speed .upload,
    .separator].map fun w => (w.text, w)

/-- The time that was printed. -/
def readDateTime (s : Bytes) : Option CurrentTime := do
  let (year, s) := readPadded s
  let (month, s) := readPadded (← scanLiteral (ascii "-") s)
  let (day, s) := readPadded (← scanLiteral (ascii "-") s)
  let (hour, s) := readPadded (← scanLiteral (ascii " ") s)
  let (minute, s) := readPadded (← scanLiteral (ascii ":") s)
  let (second, s) := readPadded (← scanLiteral (ascii ":") s)
  if s = [] then
    some ⟨.ofInt year, .ofInt month, .ofInt day, .ofInt hour, .ofInt minute, .ofInt second⟩
  else none

/-- A level in front of the bracket that ends the line. -/
def readLevel (s : Bytes) : Option AlertLevel := do
  let (level, s) ← readWord levelWords s
  if s = ascii "]" then some level else none

/-- An integer, and the text behind it. -/
def readInteger (s : Bytes) : Option (ℤ × Bytes) := (readNumber s).map fun r => (r.1.num, r.2)

/-- A natural number, and the text behind it. -/
def readNatural (s : Bytes) : Option (ℕ × Bytes) := (readInteger s).map fun r => (r.1.toNat, r.2)

/-- The line of a process, behind its index. A bracket at the end tells that it is not available; a
name can have anything in it, so everything else is read from the end. -/
def readProcessLine (index : ℕ) (s : Bytes) : Option (TextLine ℚ) :=
  if s.getLast? = some 0x5d then do
    let (target, s) ← readLast (ascii " PID") 0x3d s
    let (pid, s) ← readInteger s
    if s = ascii " [UNAVAILABLE]" then some (.processUnavailable index target pid) else none
  else do
    let (s, parent) ← readLast (ascii " PPID") 0x3d s
    let (parentPid, rest) ← readInteger parent
    let (name, s) ← readLast (ascii " PID") 0x3d s
    let (pid, rest') ← readInteger s
    if rest = [] ∧ rest' = [] then some (.process index name pid parentPid) else none

/-- The reader of a line. -/
def readTextLine (s : Bytes) : Option (TextLine ℚ) := do
  let (word, s) ← readWord textWords s
  match word with
  | .updated => do some (.updated (← readDateTime s))
  | .uptime => do
    let (days, s) ← readNatural s
    let (hours, s) ← readNatural (← scanLiteral (ascii " days ") s)
    let (minutes, s) ← readNatural (← scanLiteral (ascii " hours ") s)
    let (seconds, s) ← readNatural (← scanLiteral (ascii " minutes ") s)
    if s = ascii " seconds" then some (.uptime days hours minutes seconds) else none
  | .loadAverage => do
    let (oneMinute, s) ← readNumber s
    let (fiveMinutes, s) ← readNumber (← scanLiteral (ascii "  ") s)
    let (fifteenMinutes, s) ← readNumber (← scanLiteral (ascii "  ") s)
    if s = [] then some (.loadAverage oneMinute fiveMinutes fifteenMinutes) else none
  | .usage kind => do
    let (percent, s) ← readBlankPadded s
    some (.usage kind percent (← readLevel (← scanLiteral (ascii "% [") s)))
  | .systemStatus => do some (.systemStatus (← readLevel s))
  | .process => do
    let (index, s) ← readNatural s
    readProcessLine index (← scanLiteral (ascii "]:       ") s)
  | .processState => some (.processState s)
  | .processMemory => do
    let (memoryMib, s) ← readNumber s
    some (.processMemory memoryMib (← readLevel (← scanLiteral (ascii " MiB [") s)))
  | .processCpu => do
    let (cpuUsage, s) ← readNumber s
    some (.processCpu cpuUsage (← readLevel (← scanLiteral (ascii "% [") s)))
  | .processCpuCollecting => if s = [] then some .processCpuCollecting else none
  | .processCpuUnavailable => if s = [] then some .processCpuUnavailable else none
  | .diskSize part => do
    let (gib, s) ← readBlankPadded s
    if s = ascii " GiB" then some (.diskSize part gib) else none
  | .networkTotal direction => do
    let (mib, s) ← readBlankPadded s
    if s = ascii " MiB" then some (.networkTotal direction mib) else none
  | .speed direction => do
    let (value, s) ← readBlankPadded s
    let unit ← scanLiteral (ascii " ") s
    some (.speed direction value (unit.rdropWhile (· = 0x20)))
  | .separator => if s = [] then some .separator else none

/-- A line, with its numbers replaced. -/
def TextLine.map {ν ν' : Type} (f : ν → ν') : TextLine ν → TextLine ν'
  | .updated t => .updated t
  | .uptime days hours minutes seconds => .uptime days hours minutes seconds
  | .loadAverage oneMinute fiveMinutes fifteenMinutes =>
    .loadAverage (f oneMinute) (f fiveMinutes) (f fifteenMinutes)
  | .usage kind percent level => .usage kind (f percent) level
  | .systemStatus level => .systemStatus level
  | .process index name pid parentPid => .process index name pid parentPid
  | .processState state => .processState state
  | .processMemory memoryMib level => .processMemory (f memoryMib) level
  | .processCpu cpuUsage level => .processCpu (f cpuUsage) level
  | .processCpuCollecting => .processCpuCollecting
  | .processCpuUnavailable => .processCpuUnavailable
  | .processUnavailable index target pid => .processUnavailable index target pid
  | .diskSize part gib => .diskSize part (f gib)
  | .networkTotal direction mib => .networkTotal direction (f mib)
  | .speed direction value unit => .speed direction (f value) unit
  | .separator => .separator

/-- A number as it is printed with two decimals. -/
def shownNumber (d : Double) : ℚ := round2 (d.value?.getD 0)

/-- The lines of the text output. -/
def textLines : LineFormat (TextLine Double) (TextLine ℚ) where
  write := TextLine.text
  view := TextLine.map shownNumber
  read := readTextLine

/-! ### Reading back -/

/-- A line of which a reader sees everything. -/
def TextLine.Legible : TextLine Double → Prop
  | .loadAverage oneMinute fiveMinutes fifteenMinutes =>
    oneMinute.IsFinite ∧ fiveMinutes.IsFinite ∧ fifteenMinutes.IsFinite
  | .usage _ d _ | .processMemory d _ | .processCpu d _ | .diskSize _ d | .networkTotal _ d =>
    d.IsFinite
  | .process _ text _ _ | .processState text | .processUnavailable _ text _ => newline ∉ text
  | .speed _ value unit => value.IsFinite ∧ newline ∉ unit ∧ unit.getLast? ≠ some 0x20
  | _ => True

theorem readWord_textWords (w : TextWord) (t : Bytes) :
    readWord textWords (w.text ++ t) = some (w, t) := by
  cases w with
  | usage kind => cases kind <;> rfl
  | diskSize part => cases part <;> rfl
  | networkTotal direction => cases direction <;> rfl
  | speed direction => cases direction <;> rfl
  | _ => rfl

theorem readWord_textWords_nil (w : TextWord) : readWord textWords w.text = some (w, []) := by
  have hword := readWord_textWords w []
  rwa [List.append_nil] at hword

theorem readDateTime_printDateTime (t : CurrentTime) : readDateTime (printDateTime t) = some t := by
  have hread : ∀ (w : ℕ) (z : ℤ) (b : UInt8) (s : Bytes), isdigit b = false →
      readPadded (padded w z ++ b :: s) = (z, b :: s) := fun w z b s hb =>
    readPadded_padded w z fun c hc => by
      obtain rfl := Option.some.inj hc
      exact hb
  have hdash : ∀ w z s, readPadded (padded w z ++ (ascii "-" ++ s)) = (z, ascii "-" ++ s) :=
    fun w z s => hread w z 0x2d s rfl
  have hblank : ∀ w z s, readPadded (padded w z ++ (ascii " " ++ s)) = (z, ascii " " ++ s) :=
    fun w z s => hread w z 0x20 s rfl
  have hcolon : ∀ w z s, readPadded (padded w z ++ (ascii ":" ++ s)) = (z, ascii ":" ++ s) :=
    fun w z s => hread w z 0x3a s rfl
  have hlast := readPadded_padded 2 t.second.toInt (t := []) fun _ h => by cases h
  rw [List.append_nil] at hlast
  simp only [readDateTime, printDateTime, List.append_assoc, hdash, hblank, hcolon, hlast,
    Json.scanLiteral_append, Option.bind_eq_bind, Option.bind_some, if_true, Int32.ofInt_toInt]

theorem readLevel_level (level : AlertLevel) :
    readLevel (alertLevelToString level ++ ascii "]") = some level := by
  simp only [readLevel, readWord_levelWords, Option.bind_eq_bind, Option.bind_some, if_true]

/-- An integer is read up to what is no part of a number. -/
theorem readInteger_decimalInt (z : ℤ) {t : Bytes} (ht : Json.NumberEnds t) :
    readInteger (decimalInt z ++ t) = some (z, t) := by
  rw [readInteger, readNumber_decimalInt z ht]
  rfl

theorem readInteger_last (z : ℤ) : readInteger (decimalInt z) = some (z, []) := by
  have hlast := readInteger_decimalInt z numberEnds_nil
  rwa [List.append_nil] at hlast

/-- So is a natural number, up to a word. -/
theorem readNatural_word (word : Bytes)
    (h : word.head?.any (fun b => ! Json.isNumberByte b) = true) (t : Bytes) (n : ℕ) :
    readNatural (decimal n ++ (word ++ t)) = some (n, word ++ t) := by
  rw [readNatural, readInteger, readNumber_decimal n (numberEnds_word h t)]
  rfl

/-- The last byte of an integer is no bracket. -/
theorem getLast?_decimalInt_ne (s : Bytes) (z : ℤ) :
    (s ++ decimalInt z).getLast? ≠ some 0x5d := by
  intro hlast
  rw [List.getLast?_append] at hlast
  cases hz : (decimalInt z).getLast? with
  | none =>
    have hread := readInteger_last z
    rw [List.getLast?_eq_none_iff.mp hz] at hread
    cases hread
  | some b =>
    rw [hz] at hlast
    obtain rfl := Option.some.inj hlast
    exact (not_mem_number rfl).2.1 z (List.mem_of_getLast? hz)

/-- The line of a process that is available is read back, whatever its name is. -/
theorem readProcessLine_process (index : ℕ) (name : Bytes) (pid parentPid : ℤ) :
    readProcessLine index (name ++ (ascii " PID=" ++ (decimalInt pid ++
      (ascii " PPID=" ++ decimalInt parentPid)))) = some (.process index name pid parentPid) := by
  have hequals := (not_mem_number (b := 0x3d) rfl).2.1
  have hsplit : name ++ (ascii " PID=" ++ (decimalInt pid ++
      (ascii " PPID=" ++ decimalInt parentPid))) =
      (name ++ (ascii " PID" ++ 0x3d :: decimalInt pid)) ++
        (ascii " PPID" ++ 0x3d :: decimalInt parentPid) := by
    simp only [List.append_assoc, List.cons_append]
    rfl
  have hlast : (name ++ (ascii " PID=" ++ (decimalInt pid ++
      (ascii " PPID=" ++ decimalInt parentPid)))).getLast? ≠ some 0x5d := by
    simp only [← List.append_assoc]
    exact getLast?_decimalInt_ne _ parentPid
  rw [readProcessLine, if_neg hlast, hsplit, readLast_append _ (hequals parentPid)]
  simp only [Option.bind_eq_bind, Option.bind_some, readInteger_last, readLast_append _ (hequals pid)]
  rfl

/-- So is the line of one that is not. -/
theorem readProcessLine_unavailable (index : ℕ) (target : Bytes) (pid : ℤ) :
    readProcessLine index (target ++ (ascii " PID=" ++ (decimalInt pid ++
      ascii " [UNAVAILABLE]"))) = some (.processUnavailable index target pid) := by
  have hequals : (0x3d : UInt8) ∉ decimalInt pid ++ ascii " [UNAVAILABLE]" := by
    have hnumber := (not_mem_number (b := 0x3d) rfl).2.1 pid
    simp only [List.mem_append, hnumber, false_or]
    decide
  have hread : readInteger (decimalInt pid ++ ascii " [UNAVAILABLE]") =
      some (pid, ascii " [UNAVAILABLE]") :=
    readInteger_decimalInt pid (@numberEnds_word (ascii " [UNAVAILABLE]") (by decide) [])
  have hlast : (target ++ (ascii " PID=" ++ (decimalInt pid ++
      ascii " [UNAVAILABLE]"))).getLast? = some 0x5d := by
    simp only [← List.append_assoc]
    rw [List.getLast?_append]
    rfl
  have hsplit : target ++ (ascii " PID=" ++ (decimalInt pid ++ ascii " [UNAVAILABLE]")) =
      target ++ (ascii " PID" ++ 0x3d :: (decimalInt pid ++ ascii " [UNAVAILABLE]")) := rfl
  rw [readProcessLine, if_pos hlast, hsplit, readLast_append _ hequals]
  simp only [Option.bind_eq_bind, Option.bind_some, hread, if_true]

theorem value?_of_isFinite {d : Double} (h : d.IsFinite) :
    ∃ q, d.value? = some q ∧ shownNumber d = round2 q := by
  obtain ⟨q, hq⟩ := Option.isSome_iff_exists.mp h
  exact ⟨q, hq, by rw [shownNumber, hq, Option.getD_some]⟩

/-- **A line is read back.** -/
theorem readTextLine_text {l : TextLine Double} (h : l.Legible) :
    readTextLine l.text = some (l.map shownNumber) := by
  have hword : ∀ (word : Bytes), word.head?.any (fun b => ! Json.isNumberByte b) = true →
      ∀ {d : Double}, d.IsFinite → ∀ t, readNumber (fixed2 d ++ (word ++ t)) =
        some (shownNumber d, word ++ t) ∧ ∀ width, readBlankPadded (padLeft width (fixed2 d) ++
          (word ++ t)) = some (shownNumber d, word ++ t) := by
    intro word hword d hd t
    obtain ⟨q, hq, hshown⟩ := value?_of_isFinite hd
    rw [hshown]
    exact ⟨readNumber_fixed2 hq (numberEnds_word hword t),
      fun width => readBlankPadded_padLeft width hq (numberEnds_word hword t)⟩
  cases l with
  | updated t =>
    simp only [TextLine.text, readTextLine, readWord_textWords, readDateTime_printDateTime,
      Option.bind_eq_bind, Option.bind_some, TextLine.map]
  | uptime days hours minutes seconds =>
    have hseconds := readNatural_word (ascii " seconds") (by decide) []
    rw [List.append_nil] at hseconds
    simp only [TextLine.text, List.append_assoc, readTextLine, readWord_textWords,
      readNatural_word (ascii " days ") (by decide), readNatural_word (ascii " hours ") (by decide),
      readNatural_word (ascii " minutes ") (by decide), hseconds, Json.scanLiteral_append,
      Option.bind_eq_bind, Option.bind_some, if_true, TextLine.map]
  | loadAverage oneMinute fiveMinutes fifteenMinutes =>
    obtain ⟨hone, hfive, hfifteen⟩ := h
    obtain ⟨q, hq, hshown⟩ := value?_of_isFinite hfifteen
    have hlast := readNumber_fixed2 hq numberEnds_nil
    rw [List.append_nil] at hlast
    have hnumber := fun {d} (hd : Double.IsFinite d) t => (hword (ascii "  ") (by decide) hd t).1
    simp only [TextLine.text, List.append_assoc, readTextLine, readWord_textWords, hnumber hone,
      hnumber hfive, hlast, Json.scanLiteral_append, Option.bind_eq_bind, Option.bind_some, if_true,
      TextLine.map, hshown]
  | usage kind percent level =>
    have hnumber := fun t => (hword (ascii "% [") (by decide) h t).2
    simp only [TextLine.text, List.append_assoc, readTextLine, readWord_textWords, hnumber,
      Json.scanLiteral_append, readLevel_level, Option.bind_eq_bind, Option.bind_some, TextLine.map]
  | systemStatus level =>
    simp only [TextLine.text, List.append_assoc, readTextLine, readWord_textWords, readLevel_level,
      Option.bind_eq_bind, Option.bind_some, TextLine.map]
  | process index name pid parentPid =>
    simp only [TextLine.text, List.append_assoc, readTextLine, readWord_textWords,
      readNatural_word (ascii "]:       ") (by decide), Json.scanLiteral_append,
      readProcessLine_process, Option.bind_eq_bind, Option.bind_some, TextLine.map]
  | processState state =>
    simp only [TextLine.text, readTextLine, readWord_textWords, Option.bind_eq_bind,
      Option.bind_some, TextLine.map]
  | processMemory memoryMib level =>
    have hnumber := fun t => (hword (ascii " MiB [") (by decide) h t).1
    simp only [TextLine.text, List.append_assoc, readTextLine, readWord_textWords, hnumber,
      Json.scanLiteral_append, readLevel_level, Option.bind_eq_bind, Option.bind_some, TextLine.map]
  | processCpu cpuUsage level =>
    have hnumber := fun t => (hword (ascii "% [") (by decide) h t).1
    simp only [TextLine.text, List.append_assoc, readTextLine, readWord_textWords, hnumber,
      Json.scanLiteral_append, readLevel_level, Option.bind_eq_bind, Option.bind_some, TextLine.map]
  | processCpuCollecting | processCpuUnavailable | separator =>
    simp only [TextLine.text, readTextLine, readWord_textWords_nil, Option.bind_eq_bind,
      Option.bind_some, if_true, TextLine.map]
  | processUnavailable index target pid =>
    simp only [TextLine.text, List.append_assoc, readTextLine, readWord_textWords,
      readNatural_word (ascii "]:       ") (by decide), Json.scanLiteral_append,
      readProcessLine_unavailable, Option.bind_eq_bind, Option.bind_some, TextLine.map]
  | diskSize part gib =>
    have hnumber := (hword (ascii " GiB") (by decide) h []).2
    rw [List.append_nil] at hnumber
    simp only [TextLine.text, List.append_assoc, readTextLine, readWord_textWords, hnumber,
      Option.bind_eq_bind, Option.bind_some, if_true, TextLine.map]
  | networkTotal direction mib =>
    have hnumber := (hword (ascii " MiB") (by decide) h []).2
    rw [List.append_nil] at hnumber
    simp only [TextLine.text, List.append_assoc, readTextLine, readWord_textWords, hnumber,
      Option.bind_eq_bind, Option.bind_some, if_true, TextLine.map]
  | speed direction value unit =>
    obtain ⟨hvalue, -, hunit⟩ := h
    have hnumber := fun t => (hword (ascii " ") (by decide) hvalue t).2
    simp only [TextLine.text, List.append_assoc, readTextLine, readWord_textWords, hnumber,
      Json.scanLiteral_append, rdropWhile_padRight 4 hunit, Option.bind_eq_bind, Option.bind_some,
      TextLine.map]

theorem newline_not_mem_padded (w : ℕ) (z : ℤ) : newline ∉ padded w z := by
  intro h
  rcases isdigit_of_mem_padded _ h with hdigit | hminus
  · exact absurd hdigit (by decide)
  · exact absurd hminus (by decide)

/-- It is one line. -/
theorem newline_not_mem_text {l : TextLine Double} (h : l.Legible) : newline ∉ l.text := by
  obtain ⟨hdecimal, hdecimalInt, -⟩ := not_mem_number (b := newline) rfl
  have hfixed2 : ∀ {d : Double}, d.IsFinite → newline ∉ fixed2 d := by
    intro d hd hmem
    exact absurd (isNumberByte_of_mem_fixed2 hd _ hmem) (by decide)
  have hblanks : ∀ n, newline ∉ List.replicate n (0x20 : UInt8) := by
    intro n hmem
    exact absurd (List.eq_of_mem_replicate hmem) (by decide)
  have hlevel : ∀ level, newline ∉ alertLevelToString level := by
    intro level
    cases level <;> decide
  have hbegin : ∀ w : TextWord, newline ∉ w.text := by
    intro w
    cases w with
    | usage kind => cases kind <;> decide
    | diskSize part => cases part <;> decide
    | networkTotal direction => cases direction <;> decide
    | speed direction => cases direction <;> decide
    | _ => decide
  cases l with
  | updated t =>
    simp [TextLine.text, printDateTime, hbegin, newline_not_mem_padded]
    decide
  | uptime days hours minutes seconds =>
    simp [TextLine.text, hbegin, hdecimal]
    decide
  | loadAverage oneMinute fiveMinutes fifteenMinutes =>
    simp [TextLine.text, hbegin, hfixed2 h.1, hfixed2 h.2.1, hfixed2 h.2.2]
    decide
  | processState state =>
    have hstate : newline ∉ state := h
    simp [TextLine.text, hbegin, hstate]
  | speed direction value unit =>
    simp [TextLine.text, padLeft, padRight, hbegin, hfixed2 h.1, hblanks, h.2.1]
    decide
  | processCpuCollecting => exact hbegin .processCpuCollecting
  | processCpuUnavailable => exact hbegin .processCpuUnavailable
  | separator => exact hbegin .separator
  | process index text | processUnavailable index text =>
    have htext : newline ∉ text := h
    simp [TextLine.text, hbegin, hdecimal, hdecimalInt, htext]
    decide
  | systemStatus level =>
    simp [TextLine.text, hbegin, hlevel]
    decide
  | _ =>
    simp [TextLine.text, padLeft, hbegin, hlevel, hfixed2 h, hblanks]
    decide

/-- **A line** is one line, and read back. -/
theorem legible_textLines {l : TextLine Double} (h : l.Legible) : textLines.Legible l :=
  ⟨readTextLine_text h, newline_not_mem_text h⟩

end EdgeSentinel.Monitor
