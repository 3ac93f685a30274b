import EdgeSentinel.Config.Load
import EdgeSentinel.Monitor.Frame
import EdgeSentinel.Monitor.Output

/-!
# The JSON output and UTF-8

A reader of the JSON output opens it as UTF-8. What is printed is ASCII, but for the names
of the targets and the names and states that the kernel shows, whose bytes from 0x80 up are
printed as they are.

## What is proved

* `valid_outputPrintJson_iff` — a line is valid UTF-8 if and only if the strings in it are.
* `jsonLine_valid_iff` — **the line of a round** is valid UTF-8 if and only if the names of
  the targets and the names and states that are read in the round are.
-/

namespace EdgeSentinel.Monitor

open CLib Encoding Trace Trace.Traced

/-! ### The pieces of the line -/

/-- What is printed of a string is valid UTF-8 exactly if the string is. -/
theorem valid_flatMap_printJsonByte (text : Bytes) :
    Utf8.Valid (text.flatMap printJsonByte) ↔ Utf8.Valid text := by
  refine Utf8.valid_flatMap (fun b hb => ?_) (fun b hb => ?_) text
  · rcases printJsonByte_cases b with hplain | ⟨-, hne, hall⟩
    · rw [printJsonByte_of_isPlain hplain]
      exact ⟨by simp, by simpa using hb⟩
    · exact ⟨hne, fun c hc => (hall c hc).2⟩
  · rcases printJsonByte_cases b with hplain | ⟨hascii, -⟩
    · exact printJsonByte_of_isPlain hplain
    · exact absurd hascii hb

theorem isAscii_of_isdigit {b : UInt8} (h : isdigit b = true) : Utf8.IsAscii b := by
  simp only [isdigit, Bool.and_eq_true, decide_eq_true_eq] at h
  exact UInt8.lt_of_le_of_lt h.2 (by decide)

theorem isAscii_decimal (n : ℕ) : ∀ b ∈ decimal n, Utf8.IsAscii b := fun b hb =>
  isAscii_of_isdigit (isdigit_of_mem_decimal n b hb)

theorem isAscii_decimalInt (z : ℤ) : ∀ b ∈ decimalInt z, Utf8.IsAscii b := by
  unfold decimalInt
  split_ifs
  · rw [List.forall_mem_cons]
    exact ⟨by decide, isAscii_decimal _⟩
  · exact isAscii_decimal _

theorem isAscii_padded (w : ℕ) (z : ℤ) : ∀ b ∈ padded w z, Utf8.IsAscii b := by
  intro b hb
  rcases isdigit_of_mem_padded b hb with h | rfl
  · exact isAscii_of_isdigit h
  · decide

theorem isAscii_fixed2 (d : Double) : ∀ b ∈ fixed2 d, Utf8.IsAscii b := by
  have htwo : ∀ h, ∀ b ∈ twoDecimals h, Utf8.IsAscii b := by
    intro h
    rw [twoDecimals, List.forall_mem_append]
    refine ⟨isAscii_decimal _, ?_⟩
    simp only [List.forall_mem_cons]
    exact ⟨by decide, isAscii_of_isdigit (isdigit_digitChar (by omega)),
      isAscii_of_isdigit (isdigit_digitChar (by omega)), by simp⟩
  cases d with
  | nan => exact List.all_iff_forall_prop.mp (by decide)
  | inf negative => cases negative <;> exact List.all_iff_forall_prop.mp (by decide)
  | negZero => exact List.all_iff_forall_prop.mp (by decide)
  | finite q =>
    unfold fixed2
    dsimp only
    split_ifs
    · rw [List.forall_mem_cons]
      exact ⟨by decide, htwo _⟩
    · exact htwo _

theorem isAscii_level (level : AlertLevel) :
    ∀ b ∈ outputPrintJsonString (alertLevelToString level), Utf8.IsAscii b := by
  cases level <;> exact List.all_iff_forall_prop.mp (by decide)

theorem isAscii_cpuSampleState (p : MonitoredProcess) :
    ∀ b ∈ outputPrintJsonString (cpuSampleState p), Utf8.IsAscii b := by
  unfold cpuSampleState
  split_ifs <;> exact List.all_iff_forall_prop.mp (by decide)

theorem isAscii_null : ∀ b ∈ ascii "null", Utf8.IsAscii b :=
  List.all_iff_forall_prop.mp (by decide)

theorem isAscii_printOrNull (present : Bool) {text : Bytes} (h : ∀ b ∈ text, Utf8.IsAscii b) :
    ∀ b ∈ printOrNull present text, Utf8.IsAscii b := by
  cases present with
  | false => exact isAscii_null
  | true => exact h

/-- All that is printed in front of the processes is ASCII. -/
theorem isAscii_front (s : MonitorSnapshot) :
    ∀ b ∈ ascii "\x7b" ++ ascii "\"timestamp\":\"" ++ printTimestamp s.currentTime ++
      ascii "\"," ++ printUptime s.uptime ++ printLoadAverage s.loadAverage ++ printSystem s ++
      printNetwork s ++ ascii "\"processes\":[", Utf8.IsAscii b := by
  unfold printTimestamp printUptime printLoadAverage printSystem printCpu printMemory printDisk
    printNetwork
  simp only [List.forall_mem_append]
  repeat' apply And.intro
  all_goals first
    | exact isAscii_padded _ _
    | exact isAscii_decimal _
    | exact isAscii_fixed2 _
    | exact isAscii_level _
    | exact List.all_iff_forall_prop.mp (by decide)

/-- A string is embedded, however it is escaped. -/
theorem embeds_outputPrintJsonString (text : Bytes) :
    Utf8.Embeds (outputPrintJsonString text) [text] :=
  .between (by decide) (by decide) (valid_flatMap_printJsonByte text)

/-- A string that is printed only if there is one. -/
theorem embeds_stringOrNull (present : Bool) (text : Bytes) :
    Utf8.Embeds (printOrNull present (outputPrintJsonString text))
      (if present then [text] else []) := by
  cases present with
  | false => exact .of_ascii isAscii_null
  | true => exact embeds_outputPrintJsonString text

/-- What is printed of a process that need not be ASCII. -/
def printedStrings (p : MonitoredProcess) : List Bytes :=
  [p.targetName.bytes] ++ (if p.available then [p.info.name.bytes] else []) ++
    (if p.available then [p.info.state.bytes] else [])

theorem embeds_printProcess (index : ℕ) (p : MonitoredProcess) :
    Utf8.Embeds (printProcess index p) (printedStrings p) := by
  have hbool : ∀ b ∈ (if p.available then ascii "true" else ascii "false"), Utf8.IsAscii b := by
    split_ifs <;> exact List.all_iff_forall_prop.mp (by decide)
  have hmemory := isAscii_printOrNull p.available (isAscii_fixed2 p.memoryMib)
  have hmemoryLevel := isAscii_printOrNull p.available (isAscii_level p.memoryLevel)
  have hparent := isAscii_printOrNull p.available (isAscii_decimalInt p.info.parentPid.toInt)
  have hcpu := isAscii_printOrNull p.cpuUsageValid (isAscii_fixed2 p.cpuUsage)
  have hcpuLevel := isAscii_printOrNull p.cpuUsageValid (isAscii_level p.cpuLevel)
  unfold printProcess printedStrings
  -- from the end: ASCII up to the state, up to the name, and up to the name of the target
  repeat refine Utf8.Embeds.append_ascii ?_ (by
    first | exact List.all_iff_forall_prop.mp (by decide) | exact hcpuLevel | exact hcpu
          | exact isAscii_cpuSampleState p | exact hmemoryLevel | exact hmemory)
  refine .append ?_ (embeds_stringOrNull p.available p.info.state.bytes)
  repeat refine Utf8.Embeds.append_ascii ?_ (by
    first | exact List.all_iff_forall_prop.mp (by decide) | exact hparent)
  refine .append ?_ (embeds_stringOrNull p.available p.info.name.bytes)
  repeat refine Utf8.Embeds.append_ascii ?_ (by
    first | exact List.all_iff_forall_prop.mp (by decide) | exact hbool | exact isAscii_decimalInt _)
  show Utf8.Embeds _ ([] ++ [p.targetName.bytes])
  refine .append (.of_ascii ?_) (embeds_outputPrintJsonString p.targetName.bytes)
  simp only [List.forall_mem_append]
  exact ⟨⟨⟨⟨List.all_iff_forall_prop.mp (by decide), List.all_iff_forall_prop.mp (by decide)⟩,
    isAscii_decimal index⟩, List.all_iff_forall_prop.mp (by decide)⟩,
    List.all_iff_forall_prop.mp (by decide)⟩

theorem embeds_printProcesses (processes : List MonitoredProcess) (index : ℕ) :
    Utf8.Embeds (printProcesses index processes) (processes.flatMap printedStrings) := by
  induction processes generalizing index with
  | nil => exact .of_ascii (by simp [printProcesses])
  | cons p processes ih =>
    have hcomma : ∀ b ∈ (if 0 < index then ascii "," else []), Utf8.IsAscii b := by
      split_ifs <;> exact List.all_iff_forall_prop.mp (by decide)
    exact ((Utf8.Embeds.of_ascii hcomma).append (embeds_printProcess index p)).append
      (ih (index + 1))

/-- **The line is valid UTF-8** if and only if the strings in it are. -/
theorem valid_outputPrintJson_iff (s : MonitorSnapshot) :
    Utf8.Valid (outputPrintJson s) ↔
      ∀ p ∈ s.processes, ∀ string ∈ printedStrings p, Utf8.Valid string := by
  have hembeds : Utf8.Embeds (outputPrintJson s) (s.processes.flatMap printedStrings) :=
    (((Utf8.Embeds.of_ascii (isAscii_front s)).append (embeds_printProcesses s.processes 0)
      ).append_ascii (List.all_iff_forall_prop.mp (by decide))).append_ascii
      (List.all_iff_forall_prop.mp (by decide))
  rw [hembeds.valid_iff]
  simp only [List.mem_flatMap, forall_exists_index, and_imp]
  exact forall_comm.trans (forall_congr' fun p => forall_comm)

/-! ### The lines of a round -/

/-- The snapshots that are printed. -/
def printedSnapshots (events : List Event) : List MonitorSnapshot :=
  events.filterMap fun e =>
    match e with
    | ⟨.system, .printed _ snapshot _ _⟩ => some snapshot
    | _ => none

/-- The lines of the JSON output. -/
def jsonLines (events : List Event) : List Bytes := (printedSnapshots events).map outputPrintJson

/-- The strings of a round are valid UTF-8: the names of the targets, and, for every process
that can be read, the name and the state that are read. -/
def StringsValid (calls : RoundCalls) (s : MainState) : Prop :=
  ∀ i, i.val < s.processCount → Utf8.Valid (s.processes i).targetName.bytes ∧
    ∀ info, readProcessInfo (calls.processes i).status
      (pidInRound (calls.processes i) (s.processes i)) = some info →
        Utf8.Valid info.name.bytes ∧ Utf8.Valid info.state.bytes

/-- What is printed in a round are the processes behind its loop. -/
theorem exists_of_mem_printedSnapshots {format : OutputFormat} {calls : RoundCalls} {s : MainState}
    {snapshot : MonitorSnapshot} (h : snapshot ∈ printedSnapshots (round format calls s).events) :
    ∃ s', (monitorProcesses calls s).result = .ok s' ∧
      snapshot.processes = (processIndices s'.processCount).map s'.processes := by
  have hemits : (round format calls s).Emits fun e => ∀ f snapshot download upload,
      e = ⟨.system, .printed f snapshot download upload⟩ →
        ∃ s', (monitorProcesses calls s).result = .ok s' ∧
          snapshot.processes = (processIndices s'.processCount).map s'.processes := by
    refine .bind (fun e he => ?_) fun s' hs' => .bind (fun e he => ?_) fun _ _ => .pure
    · rintro f snapshot download upload rfl
      obtain ⟨c, -, he⟩ := mem_events_run.mp he
      exact absurd (monitorProcess_emits calls c.1 c.2 _ he) (by simp)
    · rintro f snapshot download upload rfl
      obtain ⟨a, ha, he⟩ := List.mem_map.mp he
      obtain ⟨-, rfl⟩ := Event.mk.inj he
      exact ⟨s', hs', monitorSystem_emits format calls s' _ ha⟩
  obtain ⟨e, he, hsnapshot⟩ := List.mem_filterMap.mp h
  split at hsnapshot
  · obtain rfl := Option.some.inj hsnapshot
    exact hemits _ he _ _ _ _ rfl
  · cases hsnapshot

/-- **A line of the JSON output**, printed in a round, is valid UTF-8 if and only if the
strings of the round are: the names of the targets, and the names and states that are read. -/
theorem jsonLine_valid_iff (format : OutputFormat) (calls : RoundCalls) (s : MainState)
    (line : Bytes) (hline : line ∈ jsonLines (round format calls s).events) :
    Utf8.Valid line ↔ StringsValid calls s := by
  obtain ⟨snapshot, hsnapshot, rfl⟩ := List.mem_map.mp hline
  obtain ⟨s', hs', hprocesses⟩ := exists_of_mem_printedSnapshots hsnapshot
  obtain ⟨hmem, -, heq⟩ := run_monitorProcess_ok (nodup_processIndices _) hs'
  have hcount : s'.processCount = s.processCount := by rw [heq]
  rw [valid_outputPrintJson_iff, hprocesses, hcount]
  simp only [List.forall_mem_map, mem_processIndices]
  refine forall₂_congr fun i hi => ?_
  have hafter := monitorProcessOnce_ok (hmem i (mem_processIndices.mpr hi))
  have havailable := hafter.available
  unfold printedStrings
  rw [← hafter.targetName]
  cases hinfo : readProcessInfo (calls.processes i).status
      (pidInRound (calls.processes i) (s.processes i)) with
  | none =>
    rw [hinfo] at havailable
    simp [havailable]
  | some info =>
    rw [hinfo] at havailable
    simp [havailable, hafter.info info hinfo]

/-- A state in which the process 7 is monitored, which is known by its PID. -/
def monitorsSeven : MainState :=
  { MainState.zero Config.AppConfig.zero with
    processes := fun _ => .fresh (.empty _) 7 7, processCount := 1 }

/-- The line of a round with a name of ASCII. -/
theorem jsonLine_valid_ascii : ∃ line,
    line ∈ jsonLines (round .json (quietRound (quietProc [(7, ascii "a")]) 1) monitorsSeven).events ∧
      Utf8.Valid line := by
  have hlines : (printedSnapshots (round .json (quietRound (quietProc [(7, ascii "a")]) 1)
      monitorsSeven).events).length = 1 := by decide +kernel
  obtain ⟨snapshot, hsnapshot⟩ := List.length_eq_one_iff.mp hlines
  have hline : outputPrintJson snapshot ∈ jsonLines (round .json
      (quietRound (quietProc [(7, ascii "a")]) 1) monitorsSeven).events := by
    rw [jsonLines, hsnapshot]
    exact List.mem_singleton.mpr rfl
  refine ⟨_, hline, (jsonLine_valid_iff _ _ _ _ hline).mpr fun i hi => ⟨.nil, fun info hinfo => ?_⟩⟩
  have hread : (readProcessInfo (quietProc [(7, ascii "a")]) 7).map
      (fun info => (info.name.bytes, info.state.bytes)) = some (ascii "a", ascii "S") := by
    decide +kernel
  have hinfo : readProcessInfo (quietProc [(7, ascii "a")]) 7 = some info := hinfo
  rw [hinfo] at hread
  obtain ⟨hname, hstate⟩ := Prod.mk.inj (Option.some.inj hread)
  rw [hname, hstate]
  exact ⟨Utf8.valid_of_ascii (List.all_iff_forall_prop.mp (by decide)),
    Utf8.valid_of_ascii (List.all_iff_forall_prop.mp (by decide))⟩

theorem not_valid_ff : ¬ Utf8.Valid [0xff] := by
  intro h
  generalize htext : ([0xff] : Bytes) = text at h
  cases h with
  | nil => cases htext
  | cons hchar hrest =>
    cases hchar with
    | one ha =>
      obtain ⟨rfl, -⟩ := List.cons.inj htext
      exact absurd ha (by decide)
    | two => simp at htext
    | three => simp at htext
    | four => simp at htext

/-- A name with a byte that is no character makes a line that is no UTF-8, even if all of the
configuration is ASCII. -/
theorem name_not_utf8 : ¬ ∀ (calls : StartCalls) (its : List Iteration) (line : Bytes),
    (∀ file, calls.configFile = some file → ∀ b ∈ file.content, Utf8.IsAscii b) →
    (∀ it ∈ its, it.reload = none) →
    line ∈ jsonLines (daemon .json calls its).events → Utf8.Valid line := by
  intro h
  have hrun : (printedSnapshots (daemon .json
      (quietStart .zero (ascii "process_pid=7\n") (quietProc [(7, [0xff])]))
      [⟨none, quietRound (quietProc [(7, [0xff])]) 1⟩]).events).map
        (fun snapshot => snapshot.processes.map fun p => (p.available, p.info.name.bytes)) =
      [[(true, [0xff])]] := by decide +kernel
  obtain ⟨snapshot, hsnapshot, hprocesses⟩ := List.map_eq_singleton_iff.mp hrun
  obtain ⟨p, hp, hname⟩ := List.map_eq_singleton_iff.mp hprocesses
  obtain ⟨havailable, hname⟩ := Prod.mk.inj hname
  have hline := h (quietStart .zero (ascii "process_pid=7\n") (quietProc [(7, [0xff])]))
    [⟨none, quietRound (quietProc [(7, [0xff])]) 1⟩] (outputPrintJson snapshot)
    (fun file hfile => by
      obtain rfl := Option.some.inj hfile
      exact List.all_iff_forall_prop.mp (by decide))
    (by simp)
    (by
      rw [jsonLines, hsnapshot]
      exact List.mem_singleton.mpr rfl)
  have hstrings := (valid_outputPrintJson_iff snapshot).mp hline p
    (by rw [hp]; exact List.mem_singleton_self p) p.info.name.bytes
    (by simp [printedStrings, havailable])
  rw [hname] at hstrings
  exact not_valid_ff hstrings

end EdgeSentinel.Monitor
