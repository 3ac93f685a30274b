import EdgeSentinel.Encoding.JsonPrintf
import EdgeSentinel.Encoding.Utf8
import EdgeSentinel.Monitor.MainLoop

/-!
# The JSON output

`output_print_json` of `output.c`: a snapshot as one line of JSON.

## The model

`outputPrintJson` is everything that is printed, call by call. The text of the source is
split into its own blocks (the time, the system, the network, each process).

## What is proved

* `outputPrintJson_eq` — the pieces that are printed are one compact JSON text
  (`snapshotText`) and a newline.
* `parse_outputPrintJson` — **the line is read back** as the snapshot (`jsonOfSnapshot`),
  and its only control character is the newline at its end.
-/

namespace EdgeSentinel.Monitor

open CLib Encoding

/-! ### What is printed -/

/-- The body of the loop of `output_print_json_string`. -/
def printJsonByte (b : UInt8) : Bytes :=
  if b = 0x22 then ascii "\\\""
  else if b = 0x5c then ascii "\\\\"
  else if b = 0x08 then ascii "\\b"
  else if b = 0x0c then ascii "\\f"
  else if b = 0x0a then ascii "\\n"
  else if b = 0x0d then ascii "\\r"
  else if b = 0x09 then ascii "\\t"
  else if b < 0x20 then ascii "\\u" ++ hex4 b
  else [b]

/-- `output_print_json_string`. -/
def outputPrintJsonString (text : Bytes) : Bytes :=
  ascii "\"" ++ text.flatMap printJsonByte ++ ascii "\""

/-- The time of day. -/
def printTimestamp (t : CurrentTime) : Bytes :=
  padded 4 t.year.toInt ++ ascii "-" ++ padded 2 t.month.toInt ++ ascii "-" ++
    padded 2 t.day.toInt ++ ascii "T" ++ padded 2 t.hour.toInt ++ ascii ":" ++
    padded 2 t.minute.toInt ++ ascii ":" ++ padded 2 t.second.toInt

/-- The uptime. -/
def printUptime (u : SystemUptime) : Bytes :=
  ascii "\"uptime\":\x7b\"days\":" ++ decimal u.days.toNat ++ ascii ",\"hours\":" ++
    decimal u.hours.toNat ++ ascii ",\"minutes\":" ++ decimal u.minutes.toNat ++
    ascii ",\"seconds\":" ++ decimal u.seconds.toNat ++ ascii "\x7d,"

/-- The load averages. -/
def printLoadAverage (l : LoadAverage) : Bytes :=
  ascii "\"load_average\":\x7b\"one_minute\":" ++ fixed2 l.oneMinute ++
    ascii ",\"five_minutes\":" ++ fixed2 l.fiveMinutes ++ ascii ",\"fifteen_minutes\":" ++
    fixed2 l.fifteenMinutes ++ ascii "\x7d,"

/-- The CPU. -/
def printCpu (s : MonitorSnapshot) : Bytes :=
  ascii "\"cpu\":\x7b\"usage_percent\":" ++ fixed2 s.cpuUsagePercent ++ ascii ",\"status\":" ++
    outputPrintJsonString (alertLevelToString s.cpuLevel) ++ ascii "\x7d,"

/-- The memory. -/
def printMemory (s : MonitorSnapshot) : Bytes :=
  ascii "\"memory\":\x7b\"total_kb\":" ++ decimal s.totalMemoryKb.toNat ++
    ascii ",\"available_kb\":" ++ decimal s.availableMemoryKb.toNat ++ ascii ",\"used_kb\":" ++
    decimal s.usedMemoryKb.toNat ++ ascii ",\"usage_percent\":" ++ fixed2 s.memoryUsagePercent ++
    ascii ",\"status\":" ++ outputPrintJsonString (alertLevelToString s.memoryLevel) ++
    ascii "\x7d,"

/-- The disk. -/
def printDisk (s : MonitorSnapshot) : Bytes :=
  ascii "\"disk\":\x7b\"mount_point\":\"/\",\"total_bytes\":" ++ decimal s.totalDiskBytes.toNat ++
    ascii ",\"used_bytes\":" ++ decimal s.usedDiskBytes.toNat ++ ascii ",\"available_bytes\":" ++
    decimal s.availableDiskBytes.toNat ++ ascii ",\"usage_percent\":" ++ fixed2 s.diskUsagePercent ++
    ascii ",\"status\":" ++ outputPrintJsonString (alertLevelToString s.diskLevel) ++ ascii "\x7d"

/-- The system: its level, the CPU, the memory and the disk. -/
def printSystem (s : MonitorSnapshot) : Bytes :=
  ascii "\"system\":\x7b" ++
    ascii "\"status\":" ++ outputPrintJsonString (alertLevelToString s.systemLevel) ++ ascii "," ++
    printCpu s ++ printMemory s ++ printDisk s ++ ascii "\x7d,"

/-- The network. -/
def printNetwork (s : MonitorSnapshot) : Bytes :=
  ascii "\"network\":\x7b\"receive_total_bytes\":" ++ decimal s.networkReceiveTotalBytes.toNat ++
    ascii ",\"transmit_total_bytes\":" ++ decimal s.networkTransmitTotalBytes.toNat ++
    ascii ",\"download_bytes_per_second\":" ++ fixed2 s.downloadBytesPerSecond ++
    ascii ",\"upload_bytes_per_second\":" ++ fixed2 s.uploadBytesPerSecond ++ ascii "\x7d,"

/-- `cpu_sample_state`. -/
def cpuSampleState (p : MonitoredProcess) : Bytes :=
  if p.cpuUsageValid then ascii "valid"
  else if p.cpuSampleInitialized then ascii "collecting"
  else ascii "unavailable"

/-- What is printed if there is something to print, and otherwise `null`. -/
def printOrNull (present : Bool) (text : Bytes) : Bytes := if present then text else ascii "null"

/-- The body of the loop over the processes, behind its comma. -/
def printProcess (index : ℕ) (p : MonitoredProcess) : Bytes :=
  ascii "\x7b" ++ ascii "\"index\":" ++ decimal index ++ ascii "," ++
    ascii "\"target_name\":" ++ outputPrintJsonString p.targetName.bytes ++ ascii "," ++
    ascii "\"available\":" ++ (if p.available then ascii "true" else ascii "false") ++ ascii "," ++
    ascii "\"pid\":" ++ decimalInt p.currentPid.toInt ++ ascii "," ++
    ascii "\"name\":" ++ printOrNull p.available (outputPrintJsonString p.info.name.bytes) ++
    ascii "," ++
    ascii "\"parent_pid\":" ++ printOrNull p.available (decimalInt p.info.parentPid.toInt) ++
    ascii "," ++
    ascii "\"state\":" ++ printOrNull p.available (outputPrintJsonString p.info.state.bytes) ++
    ascii "," ++
    ascii "\"memory_mib\":" ++ printOrNull p.available (fixed2 p.memoryMib) ++ ascii "," ++
    ascii "\"memory_status\":" ++
    printOrNull p.available (outputPrintJsonString (alertLevelToString p.memoryLevel)) ++
    ascii "," ++
    ascii "\"cpu_sample_state\":" ++ outputPrintJsonString (cpuSampleState p) ++ ascii "," ++
    ascii "\"cpu_usage_percent\":" ++ printOrNull p.cpuUsageValid (fixed2 p.cpuUsage) ++
    ascii "," ++
    ascii "\"cpu_status\":" ++
    printOrNull p.cpuUsageValid (outputPrintJsonString (alertLevelToString p.cpuLevel)) ++
    ascii "\x7d"

/-- The loop over the processes, from the one with this index. -/
def printProcesses : (index : ℕ) → List MonitoredProcess → Bytes
  | _, [] => []
  | index, p :: processes =>
    (if 0 < index then ascii "," else []) ++ printProcess index p ++
      printProcesses (index + 1) processes

/-- `output_print_json`: the line it prints. -/
def outputPrintJson (s : MonitorSnapshot) : Bytes :=
  ascii "\x7b" ++ ascii "\"timestamp\":\"" ++ printTimestamp s.currentTime ++ ascii "\"," ++
    printUptime s.uptime ++ printLoadAverage s.loadAverage ++ printSystem s ++ printNetwork s ++
    ascii "\"processes\":[" ++ printProcesses 0 s.processes ++ ascii "]" ++ ascii "\x7d\n"

/-! ### What the line stands for -/

/-- A double rounded to two decimals. -/
def jsonOfDouble (d : Double) : Json := .number (round2 (d.value?.getD 0))

/-- A level. -/
def jsonOfLevel (level : AlertLevel) : Json := .string (alertLevelToString level)

/-- A value, if there is one. -/
def jsonOrNull (present : Bool) (value : Json) : Json := if present then value else .null

/-- A process. -/
def jsonOfProcess (index : ℕ) (p : MonitoredProcess) : Json := .object [
  (ascii "index", .number index),
  (ascii "target_name", .string p.targetName.bytes),
  (ascii "available", .bool p.available),
  (ascii "pid", .number p.currentPid.toInt),
  (ascii "name", jsonOrNull p.available (.string p.info.name.bytes)),
  (ascii "parent_pid", jsonOrNull p.available (.number p.info.parentPid.toInt)),
  (ascii "state", jsonOrNull p.available (.string p.info.state.bytes)),
  (ascii "memory_mib", jsonOrNull p.available (jsonOfDouble p.memoryMib)),
  (ascii "memory_status", jsonOrNull p.available (jsonOfLevel p.memoryLevel)),
  (ascii "cpu_sample_state", .string (cpuSampleState p)),
  (ascii "cpu_usage_percent", jsonOrNull p.cpuUsageValid (jsonOfDouble p.cpuUsage)),
  (ascii "cpu_status", jsonOrNull p.cpuUsageValid (jsonOfLevel p.cpuLevel))]

/-- A snapshot. -/
def jsonOfSnapshot (s : MonitorSnapshot) : Json := .object [
  (ascii "timestamp", .string (printTimestamp s.currentTime)),
  (ascii "uptime", .object [
    (ascii "days", .number s.uptime.days.toNat),
    (ascii "hours", .number s.uptime.hours.toNat),
    (ascii "minutes", .number s.uptime.minutes.toNat),
    (ascii "seconds", .number s.uptime.seconds.toNat)]),
  (ascii "load_average", .object [
    (ascii "one_minute", jsonOfDouble s.loadAverage.oneMinute),
    (ascii "five_minutes", jsonOfDouble s.loadAverage.fiveMinutes),
    (ascii "fifteen_minutes", jsonOfDouble s.loadAverage.fifteenMinutes)]),
  (ascii "system", .object [
    (ascii "status", jsonOfLevel s.systemLevel),
    (ascii "cpu", .object [
      (ascii "usage_percent", jsonOfDouble s.cpuUsagePercent),
      (ascii "status", jsonOfLevel s.cpuLevel)]),
    (ascii "memory", .object [
      (ascii "total_kb", .number s.totalMemoryKb.toNat),
      (ascii "available_kb", .number s.availableMemoryKb.toNat),
      (ascii "used_kb", .number s.usedMemoryKb.toNat),
      (ascii "usage_percent", jsonOfDouble s.memoryUsagePercent),
      (ascii "status", jsonOfLevel s.memoryLevel)]),
    (ascii "disk", .object [
      (ascii "mount_point", .string (ascii "/")),
      (ascii "total_bytes", .number s.totalDiskBytes.toNat),
      (ascii "used_bytes", .number s.usedDiskBytes.toNat),
      (ascii "available_bytes", .number s.availableDiskBytes.toNat),
      (ascii "usage_percent", jsonOfDouble s.diskUsagePercent),
      (ascii "status", jsonOfLevel s.diskLevel)])]),
  (ascii "network", .object [
    (ascii "receive_total_bytes", .number s.networkReceiveTotalBytes.toNat),
    (ascii "transmit_total_bytes", .number s.networkTransmitTotalBytes.toNat),
    (ascii "download_bytes_per_second", jsonOfDouble s.downloadBytesPerSecond),
    (ascii "upload_bytes_per_second", jsonOfDouble s.uploadBytesPerSecond)]),
  (ascii "processes", .array (s.processes.mapIdx jsonOfProcess))]

/-! ### String literals -/

/-- A byte that is printed as it is. -/
def IsPlain (b : UInt8) : Prop := 0x20 ≤ b ∧ b ≠ 0x22 ∧ b ≠ 0x5c

instance (b : UInt8) : Decidable (IsPlain b) := inferInstanceAs (Decidable (_ ∧ _))

theorem printJsonByte_of_isPlain {b : UInt8} (h : IsPlain b) : printJsonByte b = [b] := by
  obtain ⟨hlow, hquote, hbackslash⟩ := h
  have hne : ∀ {c : UInt8}, c < 0x20 → b ≠ c := by
    rintro c hc rfl
    exact UInt8.not_lt.mpr hlow hc
  rw [printJsonByte, if_neg hquote, if_neg hbackslash, if_neg (hne (by decide)),
    if_neg (hne (by decide)), if_neg (hne (by decide)), if_neg (hne (by decide)),
    if_neg (hne (by decide)), if_neg (UInt8.not_lt.mpr hlow)]

/-- What a printed byte is read as. -/
def partOf (b : UInt8) : Json.Part :=
  if b < 0x20 ∧ b ∉ ([0x08, 0x0c, 0x0a, 0x0d, 0x09] : Bytes) then .unit b.toNat else .byte b

/-- The escape of a control character is read as its code unit. -/
theorem readParts_hex4 {b : UInt8} (hb : b < 0x20) (s : Bytes) :
    Json.readParts (ascii "\\u" ++ hex4 b ++ s) =
      (Json.readParts s).map fun (parts, t) => (.unit b.toNat :: parts, t) := by
  have hall : ∀ n < 0x20, [0x30, 0x30, xdigitChar (n / 16), xdigitChar (n % 16)].all isxdigit ∧
      [0x30, 0x30, xdigitChar (n / 16), xdigitChar (n % 16)].foldl
        (fun u h => 16 * u + xdigitValue h) 0 = n := by decide
  obtain ⟨hdigits, hvalue⟩ := hall b.toNat (UInt8.lt_iff_toNat_lt.mp hb)
  have hread := Json.readParts_unit hdigits s
  rw [hvalue] at hread
  exact hread

/-- A printed byte is read back. -/
theorem readParts_printJsonByte (b : UInt8) (s : Bytes) :
    Json.readParts (printJsonByte b ++ s) =
      (Json.readParts s).map fun (parts, t) => (partOf b :: parts, t) := by
  by_cases hescape : b ∈ ([0x22, 0x5c, 0x08, 0x0c, 0x0a, 0x0d, 0x09] : Bytes)
  · -- a byte with an escape of its own
    simp only [List.mem_cons, List.not_mem_nil, or_false] at hescape
    rcases hescape with rfl | rfl | rfl | rfl | rfl | rfl | rfl <;>
      exact Json.readParts_escape rfl s
  simp only [List.mem_cons, List.not_mem_nil, or_false, not_or] at hescape
  obtain ⟨h22, h5c, h08, h0c, h0a, h0d, h09⟩ := hescape
  by_cases hlow : b < 0x20
  · rw [printJsonByte, if_neg h22, if_neg h5c, if_neg h08, if_neg h0c, if_neg h0a, if_neg h0d,
      if_neg h09, if_pos hlow, readParts_hex4 hlow, partOf, if_pos]
    simp [hlow, h08, h0c, h0a, h0d, h09]
  · have hplain : IsPlain b := ⟨UInt8.not_lt.mp hlow, h22, h5c⟩
    rw [printJsonByte_of_isPlain hplain, List.singleton_append, Json.readParts_byte h22 h5c hlow,
      partOf, if_neg fun h => hlow h.1]

/-- A printed string is read up to its quote. -/
theorem readParts_flatMap (text t : Bytes) :
    Json.readParts (text.flatMap printJsonByte ++ 0x22 :: t) = some (text.map partOf, t) := by
  induction text with
  | nil => exact Json.readParts_quote t
  | cons b text ih =>
    rw [List.flatMap_cons, List.append_assoc, readParts_printJsonByte, ih]
    rfl

/-- What is read is the string that was printed. -/
theorem bytesOfParts_map_partOf (text : Bytes) : Json.bytesOfParts (text.map partOf) = text := by
  induction text with
  | nil => rfl
  | cons b text ih =>
    rw [List.map_cons, partOf]
    split_ifs with h
    · have hunit : ∀ parts, Json.bytesOfParts (.unit b.toNat :: parts) =
          Json.utf8 b.toNat ++ Json.bytesOfParts parts := by
        intro parts
        have hlow : ¬ 0xd800 ≤ b.toNat := by
          have := UInt8.toNat_lt b
          omega
        cases parts with
        | nil => rfl
        | cons part parts =>
          cases part with
          | byte c => rfl
          | unit v => rw [Json.bytesOfParts, if_neg fun h => hlow h.1]
      rw [hunit, ih, Json.utf8, if_pos]
      · simp
      · have := UInt8.lt_iff_toNat_lt.mp h.1
        exact Nat.lt_trans this (by decide)
    · rw [Json.bytesOfParts, ih]

/-- A byte is printed as itself, or as visible ASCII. -/
theorem printJsonByte_cases (b : UInt8) :
    IsPlain b ∨ Utf8.IsAscii b ∧ printJsonByte b ≠ [] ∧
      ∀ c ∈ printJsonByte b, 0x20 ≤ c ∧ Utf8.IsAscii c := by
  by_cases hlow : b < 0x20
  · have hall : ∀ n < 0x20, Utf8.IsAscii (UInt8.ofNat n) ∧ printJsonByte (UInt8.ofNat n) ≠ [] ∧
        (printJsonByte (UInt8.ofNat n)).all fun c => 0x20 ≤ c ∧ Utf8.IsAscii c := by decide
    obtain ⟨hascii, hne, hbytes⟩ := hall b.toNat (UInt8.lt_iff_toNat_lt.mp hlow)
    rw [UInt8.ofNat_toNat] at hascii hne hbytes
    exact .inr ⟨hascii, hne, List.all_iff_forall_prop.mp hbytes⟩
  · by_cases hquote : b = 0x22
    · subst hquote
      exact .inr ⟨by decide, by decide, List.all_iff_forall_prop.mp (by decide)⟩
    · by_cases hbackslash : b = 0x5c
      · subst hbackslash
        exact .inr ⟨by decide, by decide, List.all_iff_forall_prop.mp (by decide)⟩
      · exact .inl ⟨UInt8.not_lt.mp hlow, hquote, hbackslash⟩

theorem printable_printJsonByte (b : UInt8) : ∀ c ∈ printJsonByte b, 0x20 ≤ c := by
  rcases printJsonByte_cases b with hplain | ⟨-, -, hall⟩
  · rw [printJsonByte_of_isPlain hplain, List.forall_mem_singleton]
    exact hplain.1
  · exact fun c hc => (hall c hc).1

/-- The literal of a string. -/
def jsonString (text : Bytes) : Json.StringLiteral where
  lexeme := text.flatMap printJsonByte
  value := text
  readString_eq := fun t => by
    rw [Json.readString, readParts_flatMap, Option.map_some]
    dsimp only
    rw [bytesOfParts_map_partOf]
  printable := fun c hc => by
    obtain ⟨b, -, hc⟩ := List.mem_flatMap.mp hc
    exact printable_printJsonByte b c hc

theorem quoted_jsonString (text : Bytes) :
    Json.Text.quoted (jsonString text) = outputPrintJsonString text := rfl

/-! ### The line as a text -/

/-- A member of an object. -/
def member (name : String) (text : Json.Text) : Json.StringLiteral × Json.Text :=
  (jsonString (ascii name), text)

/-- A string. -/
def textOfString (text : Bytes) : Json.Text := .string (jsonString text)

/-- An unsigned number. -/
def textOfNat (n : ℕ) : Json.Text := .number (.ofNat n)

/-- A number. -/
def textOfInt (z : ℤ) : Json.Text := .number (.ofInt z)

/-- A double. -/
def textOfDouble (d : Double) : Json.Text := .number (.ofDouble d)

/-- A level. -/
def textOfLevel (level : AlertLevel) : Json.Text := textOfString (alertLevelToString level)

/-- A value, if there is one. -/
def textOrNull (present : Bool) (text : Json.Text) : Json.Text := if present then text else .null

/-- A process. -/
def processText (index : ℕ) (p : MonitoredProcess) : Json.Text := .object [
  member "index" (textOfNat index),
  member "target_name" (textOfString p.targetName.bytes),
  member "available" (.bool p.available),
  member "pid" (textOfInt p.currentPid.toInt),
  member "name" (textOrNull p.available (textOfString p.info.name.bytes)),
  member "parent_pid" (textOrNull p.available (textOfInt p.info.parentPid.toInt)),
  member "state" (textOrNull p.available (textOfString p.info.state.bytes)),
  member "memory_mib" (textOrNull p.available (textOfDouble p.memoryMib)),
  member "memory_status" (textOrNull p.available (textOfLevel p.memoryLevel)),
  member "cpu_sample_state" (textOfString (cpuSampleState p)),
  member "cpu_usage_percent" (textOrNull p.cpuUsageValid (textOfDouble p.cpuUsage)),
  member "cpu_status" (textOrNull p.cpuUsageValid (textOfLevel p.cpuLevel))]

/-- The uptime. -/
def uptimeText (u : SystemUptime) : Json.Text := .object [
  member "days" (textOfNat u.days.toNat),
  member "hours" (textOfNat u.hours.toNat),
  member "minutes" (textOfNat u.minutes.toNat),
  member "seconds" (textOfNat u.seconds.toNat)]

/-- The load averages. -/
def loadAverageText (l : LoadAverage) : Json.Text := .object [
  member "one_minute" (textOfDouble l.oneMinute),
  member "five_minutes" (textOfDouble l.fiveMinutes),
  member "fifteen_minutes" (textOfDouble l.fifteenMinutes)]

/-- The CPU. -/
def cpuText (s : MonitorSnapshot) : Json.Text := .object [
  member "usage_percent" (textOfDouble s.cpuUsagePercent),
  member "status" (textOfLevel s.cpuLevel)]

/-- The memory. -/
def memoryText (s : MonitorSnapshot) : Json.Text := .object [
  member "total_kb" (textOfNat s.totalMemoryKb.toNat),
  member "available_kb" (textOfNat s.availableMemoryKb.toNat),
  member "used_kb" (textOfNat s.usedMemoryKb.toNat),
  member "usage_percent" (textOfDouble s.memoryUsagePercent),
  member "status" (textOfLevel s.memoryLevel)]

/-- The disk. -/
def diskText (s : MonitorSnapshot) : Json.Text := .object [
  member "mount_point" (textOfString (ascii "/")),
  member "total_bytes" (textOfNat s.totalDiskBytes.toNat),
  member "used_bytes" (textOfNat s.usedDiskBytes.toNat),
  member "available_bytes" (textOfNat s.availableDiskBytes.toNat),
  member "usage_percent" (textOfDouble s.diskUsagePercent),
  member "status" (textOfLevel s.diskLevel)]

/-- The system. -/
def systemText (s : MonitorSnapshot) : Json.Text := .object [
  member "status" (textOfLevel s.systemLevel),
  member "cpu" (cpuText s),
  member "memory" (memoryText s),
  member "disk" (diskText s)]

/-- The network. -/
def networkText (s : MonitorSnapshot) : Json.Text := .object [
  member "receive_total_bytes" (textOfNat s.networkReceiveTotalBytes.toNat),
  member "transmit_total_bytes" (textOfNat s.networkTransmitTotalBytes.toNat),
  member "download_bytes_per_second" (textOfDouble s.downloadBytesPerSecond),
  member "upload_bytes_per_second" (textOfDouble s.uploadBytesPerSecond)]

/-- The line. -/
def snapshotText (s : MonitorSnapshot) : Json.Text := .object [
  member "timestamp" (textOfString (printTimestamp s.currentTime)),
  member "uptime" (uptimeText s.uptime),
  member "load_average" (loadAverageText s.loadAverage),
  member "system" (systemText s),
  member "network" (networkText s),
  member "processes" (.array (s.processes.mapIdx processText))]

/-- What is printed of a process is finite. -/
structure FiniteProcess (p : MonitoredProcess) : Prop where
  /-- Its memory, if it is available. -/
  memoryMib : p.available = true → p.memoryMib.IsFinite
  /-- Its CPU usage, if it is valid. -/
  cpuUsage : p.cpuUsageValid = true → p.cpuUsage.IsFinite

/-- The doubles of a snapshot are finite. -/
structure FiniteSnapshot (s : MonitorSnapshot) : Prop where
  /-- The load over one minute. -/
  oneMinute : s.loadAverage.oneMinute.IsFinite
  /-- Over five minutes. -/
  fiveMinutes : s.loadAverage.fiveMinutes.IsFinite
  /-- Over fifteen minutes. -/
  fifteenMinutes : s.loadAverage.fifteenMinutes.IsFinite
  /-- The CPU usage. -/
  cpuUsagePercent : s.cpuUsagePercent.IsFinite
  /-- The memory usage. -/
  memoryUsagePercent : s.memoryUsagePercent.IsFinite
  /-- The disk usage. -/
  diskUsagePercent : s.diskUsagePercent.IsFinite
  /-- The download speed. -/
  downloadBytesPerSecond : s.downloadBytesPerSecond.IsFinite
  /-- The upload speed. -/
  uploadBytesPerSecond : s.uploadBytesPerSecond.IsFinite
  /-- The processes. -/
  processes : ∀ p ∈ s.processes, FiniteProcess p

theorem render_textOfDouble {d : Double} (h : d.IsFinite) : (textOfDouble d).render = fixed2 d :=
  Json.NumberLiteral.lexeme_ofDouble h

theorem render_textOrNull (present : Bool) (text : Json.Text) :
    (textOrNull present text).render = printOrNull present text.render := by
  cases present <;> rfl

/-- A double that is printed only if there is one. -/
theorem render_doubleOrNull {present : Bool} {d : Double} (h : present = true → d.IsFinite) :
    (textOrNull present (textOfDouble d)).render = printOrNull present (fixed2 d) := by
  rw [render_textOrNull]
  cases present with
  | false => rfl
  | true => rw [render_textOfDouble (h rfl)]

/-- A member, and what is printed behind it. -/
def printMember (name : String) (text : Json.Text) (behind : Bytes) : Bytes :=
  outputPrintJsonString (ascii name) ++ 0x3a :: (text.render ++ behind)

theorem printUptime_eq (u : SystemUptime) :
    printUptime u = printMember "uptime" (uptimeText u) [0x2c] := by
  simp only [printUptime, printMember, uptimeText, member, Json.Text.render,
    Json.Text.renderMembers, quoted_jsonString, List.append_assoc, List.cons_append,
    List.nil_append]
  rfl

theorem printLoadAverage_eq {s : MonitorSnapshot} (h : FiniteSnapshot s) :
    printLoadAverage s.loadAverage =
      printMember "load_average" (loadAverageText s.loadAverage) [0x2c] := by
  simp only [printLoadAverage, printMember, loadAverageText, member, Json.Text.render,
    Json.Text.renderMembers, quoted_jsonString, render_textOfDouble h.oneMinute,
    render_textOfDouble h.fiveMinutes, render_textOfDouble h.fifteenMinutes, List.append_assoc,
    List.cons_append, List.nil_append]
  rfl

theorem printCpu_eq {s : MonitorSnapshot} (h : FiniteSnapshot s) :
    printCpu s = printMember "cpu" (cpuText s) [0x2c] := by
  simp only [printCpu, printMember, cpuText, member, Json.Text.render, Json.Text.renderMembers,
    quoted_jsonString, render_textOfDouble h.cpuUsagePercent, List.append_assoc,
    List.cons_append, List.nil_append]
  rfl

theorem printMemory_eq {s : MonitorSnapshot} (h : FiniteSnapshot s) :
    printMemory s = printMember "memory" (memoryText s) [0x2c] := by
  simp only [printMemory, printMember, memoryText, member, Json.Text.render,
    Json.Text.renderMembers, quoted_jsonString, render_textOfDouble h.memoryUsagePercent,
    List.append_assoc, List.cons_append, List.nil_append]
  rfl

theorem printDisk_eq {s : MonitorSnapshot} (h : FiniteSnapshot s) :
    printDisk s = printMember "disk" (diskText s) [] := by
  simp only [printDisk, printMember, diskText, member, Json.Text.render, Json.Text.renderMembers,
    quoted_jsonString, render_textOfDouble h.diskUsagePercent, List.append_assoc,
    List.cons_append, List.append_nil]
  rfl

theorem printSystem_eq {s : MonitorSnapshot} (h : FiniteSnapshot s) :
    printSystem s = printMember "system" (systemText s) [0x2c] := by
  simp only [printSystem, printCpu_eq h, printMemory_eq h, printDisk_eq h, printMember, systemText,
    member, Json.Text.render, Json.Text.renderMembers, quoted_jsonString, List.append_assoc,
    List.cons_append, List.nil_append]
  generalize (cpuText s).render = cpu
  generalize (memoryText s).render = memory
  generalize (diskText s).render = disk
  rfl

theorem printNetwork_eq {s : MonitorSnapshot} (h : FiniteSnapshot s) :
    printNetwork s = printMember "network" (networkText s) [0x2c] := by
  simp only [printNetwork, printMember, networkText, member, Json.Text.render,
    Json.Text.renderMembers, quoted_jsonString, render_textOfDouble h.downloadBytesPerSecond,
    render_textOfDouble h.uploadBytesPerSecond, List.append_assoc, List.cons_append,
    List.nil_append]
  rfl

set_option maxRecDepth 4000 in
theorem printProcess_eq {p : MonitoredProcess} (h : FiniteProcess p) (index : ℕ) :
    printProcess index p = (processText index p).render := by
  unfold printProcess processText
  simp only [member, Json.Text.render, Json.Text.renderMembers, quoted_jsonString]
  rw [render_doubleOrNull h.memoryMib, render_doubleOrNull h.cpuUsage]
  simp only [render_textOrNull, List.append_assoc, List.cons_append]
  rfl

/-- The loop prints a comma in front of every process but the first one. -/
theorem printProcesses_cons_eq {p : MonitoredProcess} {processes : List MonitoredProcess}
    (h : ∀ q ∈ p :: processes, FiniteProcess q) (index : ℕ) :
    printProcesses index (p :: processes) = (if 0 < index then [0x2c] else []) ++
      Json.Text.renderItems ((p :: processes).mapIdx fun k => processText (k + index)) := by
  induction processes generalizing p index with
  | nil =>
    rw [printProcesses, printProcesses, printProcess_eq (h p List.mem_cons_self), List.append_nil,
      List.mapIdx_cons, List.mapIdx_nil, Json.Text.renderItems, Nat.zero_add]
    rfl
  | cons q processes ih =>
    rw [List.forall_mem_cons] at h
    have hshift : (fun k => processText (k + (index + 1))) =
        fun k => processText (k + 1 + index) := by
      funext k
      rw [Nat.add_assoc, Nat.add_comm 1]
    rw [printProcesses, printProcess_eq h.1, ih h.2, if_pos (Nat.succ_pos index), hshift,
      List.mapIdx_cons (l := q :: processes), List.mapIdx_cons, Json.Text.renderItems_cons,
      Nat.zero_add index, List.append_assoc]
    rfl

theorem printProcesses_eq {processes : List MonitoredProcess}
    (h : ∀ p ∈ processes, FiniteProcess p) :
    printProcesses 0 processes = Json.Text.renderItems (processes.mapIdx processText) := by
  cases processes with
  | nil => rfl
  | cons p processes => exact printProcesses_cons_eq h 0

/-- A byte of the time is printed as it is. -/
theorem isPlain_of_mem_printTimestamp (t : CurrentTime) : ∀ b ∈ printTimestamp t, IsPlain b := by
  have hplain : ∀ {w : ℕ} {z : ℤ}, ∀ b ∈ padded w z, IsPlain b := by
    intro w z b hb
    rcases isdigit_of_mem_padded b hb with h | rfl
    · simp only [isdigit, Bool.and_eq_true, decide_eq_true_eq] at h
      refine ⟨UInt8.le_trans (by decide) h.1, ?_, ?_⟩
      · rintro rfl
        exact absurd h.1 (by decide)
      · rintro rfl
        exact absurd h.2 (by decide)
    · decide
  have hdash : ∀ b ∈ ascii "-", IsPlain b := List.all_iff_forall_prop.mp (by decide)
  have hletter : ∀ b ∈ ascii "T", IsPlain b := List.all_iff_forall_prop.mp (by decide)
  have hcolon : ∀ b ∈ ascii ":", IsPlain b := List.all_iff_forall_prop.mp (by decide)
  unfold printTimestamp
  simp only [List.forall_mem_append]
  exact ⟨⟨⟨⟨⟨⟨⟨⟨⟨⟨hplain, hdash⟩, hplain⟩, hdash⟩, hplain⟩, hletter⟩, hplain⟩, hcolon⟩, hplain⟩,
    hcolon⟩, hplain⟩

theorem flatMap_printJsonByte_of_isPlain {text : Bytes} (h : ∀ b ∈ text, IsPlain b) :
    text.flatMap printJsonByte = text := by
  induction text with
  | nil => rfl
  | cons b text ih =>
    rw [List.forall_mem_cons] at h
    rw [List.flatMap_cons, printJsonByte_of_isPlain h.1, ih h.2, List.singleton_append]

/-- **The pieces that are printed** are one compact JSON text and a newline. -/
theorem outputPrintJson_eq {s : MonitorSnapshot} (h : FiniteSnapshot s) :
    outputPrintJson s = (snapshotText s).render ++ [newline] := by
  have htimestamp : outputPrintJsonString (printTimestamp s.currentTime) =
      0x22 :: (printTimestamp s.currentTime ++ [0x22]) := by
    rw [outputPrintJsonString,
      flatMap_printJsonByte_of_isPlain (isPlain_of_mem_printTimestamp s.currentTime)]
    rfl
  unfold outputPrintJson snapshotText
  simp only [printUptime_eq, printLoadAverage_eq h, printSystem_eq h, printNetwork_eq h,
    printProcesses_eq h.processes, member, textOfString, Json.Text.render,
    Json.Text.renderMembers, quoted_jsonString, htimestamp, printMember, List.append_assoc,
    List.cons_append, List.nil_append]
  rfl

/-! ### Reading the line -/

theorem value_textOfDouble {d : Double} (h : d.IsFinite) :
    (textOfDouble d).value = jsonOfDouble d := by
  obtain ⟨q, hq⟩ := Option.isSome_iff_exists.mp h
  rw [textOfDouble, Json.Text.value, Json.NumberLiteral.value_ofDouble hq, jsonOfDouble, hq,
    Option.getD_some]

theorem value_textOrNull (present : Bool) (text : Json.Text) :
    (textOrNull present text).value = jsonOrNull present text.value := by
  cases present <;> rfl

theorem value_doubleOrNull {present : Bool} {d : Double} (h : present = true → d.IsFinite) :
    (textOrNull present (textOfDouble d)).value = jsonOrNull present (jsonOfDouble d) := by
  rw [value_textOrNull]
  cases present with
  | false => rfl
  | true => rw [value_textOfDouble (h rfl)]

theorem value_processText {p : MonitoredProcess} (h : FiniteProcess p) (index : ℕ) :
    (processText index p).value = jsonOfProcess index p := by
  unfold processText jsonOfProcess
  simp only [member, Json.Text.value, Json.Text.valueMembers]
  rw [value_doubleOrNull h.memoryMib, value_doubleOrNull h.cpuUsage]
  simp only [value_textOrNull]
  rfl

theorem value_snapshotText {s : MonitorSnapshot} (h : FiniteSnapshot s) :
    (snapshotText s).value = jsonOfSnapshot s := by
  have hprocesses : (s.processes.mapIdx processText).map Json.Text.value =
      s.processes.mapIdx jsonOfProcess := by
    refine List.ext_getElem (by simp) fun i h₁ h₂ => ?_
    rw [List.getElem_map, List.getElem_mapIdx, List.getElem_mapIdx,
      value_processText (h.processes _ (List.getElem_mem _))]
  unfold snapshotText jsonOfSnapshot uptimeText loadAverageText systemText cpuText memoryText
    diskText networkText
  simp only [member, Json.Text.value, Json.Text.valueMembers, Json.Text.valueItems_eq, hprocesses,
    value_textOfDouble h.oneMinute, value_textOfDouble h.fiveMinutes,
    value_textOfDouble h.fifteenMinutes, value_textOfDouble h.cpuUsagePercent,
    value_textOfDouble h.memoryUsagePercent, value_textOfDouble h.diskUsagePercent,
    value_textOfDouble h.downloadBytesPerSecond, value_textOfDouble h.uploadBytesPerSecond]
  rfl

/-- A number that was padded, and the text behind it. -/
def readPadded (s : Bytes) : ℤ × Bytes :=
  match s with
  | 0x2d :: t => (-(decimalValue (t.takeWhile isdigit) : ℤ), t.dropWhile isdigit)
  | _ => (decimalValue (s.takeWhile isdigit), s.dropWhile isdigit)

/-- The time that was printed. -/
def readTimestamp (s : Bytes) : Option CurrentTime := do
  let (year, s) := readPadded s
  let (month, s) := readPadded (← scanLiteral (ascii "-") s)
  let (day, s) := readPadded (← scanLiteral (ascii "-") s)
  let (hour, s) := readPadded (← scanLiteral (ascii "T") s)
  let (minute, s) := readPadded (← scanLiteral (ascii ":") s)
  let (second, s) := readPadded (← scanLiteral (ascii ":") s)
  if s = [] then
    some ⟨.ofInt year, .ofInt month, .ofInt day, .ofInt hour, .ofInt minute, .ofInt second⟩
  else none

/-- A padded number is read up to what is no digit. -/
theorem readPadded_padded (w : ℕ) (z : ℤ) {t : Bytes}
    (ht : ∀ b, t.head? = some b → isdigit b = false) : readPadded (padded w z ++ t) = (z, t) := by
  have hcut := fun zeros => takeWhile_dropWhile_append
    (isdigit_of_mem_zeros_append zeros z.natAbs) ht
  have hvalue := fun zeros => decimalValue_zeros_append zeros z.natAbs
  unfold padded
  dsimp only
  split_ifs with hz
  · rw [List.cons_append]
    show (-(decimalValue (List.takeWhile _ _) : ℤ), List.dropWhile _ _) = _
    rw [(hcut _).1, (hcut _).2, hvalue]
    exact Prod.ext (by dsimp only; omega) rfl
  · have hpositive : ∀ s : Bytes, (∀ b, s.head? = some b → isdigit b = true) →
        readPadded s = ((decimalValue (s.takeWhile isdigit) : ℤ), s.dropWhile isdigit) := by
      intro s hs
      unfold readPadded
      split
      · exact absurd (hs _ rfl) (by decide)
      · rfl
    rw [hpositive, (hcut _).1, (hcut _).2, hvalue]
    · exact Prod.ext (by dsimp only; omega) rfl
    · intro b hb
      have hne : List.replicate (w - (decimal z.natAbs).length) 0x30 ++ decimal z.natAbs ≠ [] := by
        simp [decimal_ne_nil]
      rw [List.head?_append_of_ne_nil _ hne] at hb
      exact isdigit_of_mem_zeros_append _ _ b (List.mem_of_head? hb)

theorem readTimestamp_printTimestamp (t : CurrentTime) :
    readTimestamp (printTimestamp t) = some t := by
  have hread : ∀ (w : ℕ) (z : ℤ) (b : UInt8) (s : Bytes), isdigit b = false →
      readPadded (padded w z ++ b :: s) = (z, b :: s) := fun w z b s hb =>
    readPadded_padded w z fun c hc => by
      obtain rfl := Option.some.inj hc
      exact hb
  have hdash : ∀ w z s, readPadded (padded w z ++ (ascii "-" ++ s)) = (z, ascii "-" ++ s) :=
    fun w z s => hread w z 0x2d s rfl
  have hletter : ∀ w z s, readPadded (padded w z ++ (ascii "T" ++ s)) = (z, ascii "T" ++ s) :=
    fun w z s => hread w z 0x54 s rfl
  have hcolon : ∀ w z s, readPadded (padded w z ++ (ascii ":" ++ s)) = (z, ascii ":" ++ s) :=
    fun w z s => hread w z 0x3a s rfl
  have hlast := readPadded_padded 2 t.second.toInt (t := []) fun _ h => by cases h
  rw [List.append_nil] at hlast
  simp only [readTimestamp, printTimestamp, List.append_assoc, hdash, hletter, hcolon, hlast,
    Json.scanLiteral_append, Option.bind_eq_bind, Option.bind_some, if_true, Int32.ofInt_toInt]

/-- **The line is read back**: it is one line, whose only control character is the newline
at its end; a JSON parser reads all of it, as the snapshot; and its timestamp is read as the
time. -/
theorem parse_outputPrintJson (s : MonitorSnapshot) (h : FiniteSnapshot s) :
    (∃ text, outputPrintJson s = text ++ [newline] ∧ ∀ b ∈ text, 0x20 ≤ b) ∧
    Json.parse (outputPrintJson s) = some (jsonOfSnapshot s) ∧
    readTimestamp (printTimestamp s.currentTime) = some s.currentTime := by
  refine ⟨⟨_, outputPrintJson_eq h, Json.printable_render _⟩, ?_,
    readTimestamp_printTimestamp s.currentTime⟩
  have hwhite : ∀ b ∈ [newline], Json.isWhite b = true := List.all_iff_forall_prop.mp (by decide)
  rw [outputPrintJson_eq h, Json.parse_render _ hwhite, value_snapshotText h]

/-- A snapshot of zeros, with these processes. -/
def MonitorSnapshot.zero (processes : List MonitoredProcess) : MonitorSnapshot where
  currentTime := ⟨0, 0, 0, 0, 0, 0⟩
  uptime := ⟨0, 0, 0, 0⟩
  loadAverage := ⟨.finite 0, .finite 0, .finite 0⟩
  cpuUsagePercent := .finite 0
  cpuLevel := .normal
  totalMemoryKb := 0
  availableMemoryKb := 0
  usedMemoryKb := 0
  memoryUsagePercent := .finite 0
  memoryLevel := .normal
  totalDiskBytes := 0
  usedDiskBytes := 0
  availableDiskBytes := 0
  diskUsagePercent := .finite 0
  diskLevel := .normal
  systemLevel := .normal
  networkReceiveTotalBytes := 0
  networkTransmitTotalBytes := 0
  downloadBytesPerSecond := .finite 0
  uploadBytesPerSecond := .finite 0
  processes := processes

/-- A process whose name has a quote, a newline and a byte that is no character. -/
def oddProcess : MonitoredProcess := .fresh (.snprintf _ [0x22, 0x0a, 0xff]) 0 7

/-- Two processes, one that is unavailable and one that is available. -/
def oddSnapshot : MonitorSnapshot := .zero [oddProcess, { oddProcess with available := true }]

theorem finite_oddSnapshot : FiniteSnapshot oddSnapshot := by
  have hfinite : ∀ p ∈ oddSnapshot.processes, FiniteProcess p := by
    show ∀ p ∈ [oddProcess, { oddProcess with available := true }], FiniteProcess p
    simp only [List.forall_mem_cons]
    exact ⟨⟨fun _ => rfl, fun _ => rfl⟩, ⟨fun _ => rfl, fun _ => rfl⟩, by simp⟩
  exact ⟨rfl, rfl, rfl, rfl, rfl, rfl, rfl, rfl, hfinite⟩

/-- They are read back, although their names have bytes that are escaped. -/
theorem parse_outputPrintJson_odd :
    Json.parse (outputPrintJson oddSnapshot) = some (jsonOfSnapshot oddSnapshot) :=
  (parse_outputPrintJson oddSnapshot finite_oddSnapshot).2.1

end EdgeSentinel.Monitor
