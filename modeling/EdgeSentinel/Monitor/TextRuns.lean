import EdgeSentinel.Monitor.ConfigInEffect
import EdgeSentinel.Monitor.JsonLines
import EdgeSentinel.Monitor.LogOfRun
import EdgeSentinel.Monitor.ProgressText

/-!
# The standard output of text runs

With `--output text` everything goes to the standard output: the messages of the start and of the
reloads, targets that were found, and the rounds. Names of processes stand in all of them, and a
process can call itself whatever it likes.

## The model

* `printedLines` — what is printed where the loop does something.
* `textOutput` — the lines of the standard output of a run.
* `readRounds` — the reader: lines that are none of a round are left out, and a round is complete
  when its last line is there.

## What is proved

* `legible_of_completed` — what a completed turn prints is legible: its numbers are finite, and the
  names in it are on one line.
* `textOutput_rounds` — **the standard output of every run** is read as the rounds of the turns
  that were completed, in order. No name of a process, of an interface or of a file can add a round,
  or hide one; and if the output is cut off anywhere, the first rounds are read.
-/

namespace EdgeSentinel.Monitor

open CLib Config Encoding Trace Trace.Traced

/-! ### What is printed -/

/-- What an event of a turn prints, if `s` is the state behind its reload. -/
def printedLines (s : MainState) (e : Event) : List Bytes :=
  match e.source, e.action with
  | .process i, .found pid => [foundMessage (s.processes i).targetName.bytes pid]
  | .system, .reloaded => reloadMessages s
  | .system, .printed _ snapshot download upload =>
    (linesOfRound ⟨snapshot, download, upload⟩).map TextLine.text
  | _, _ => []

/-- What a turn prints. -/
def turnLines (c : MainState × Iteration) : List Bytes :=
  match (reloadIfRequested c.2.reload c.1).result with
  | .ok s => (iteration .text c.1 c.2).events.flatMap (printedLines s)
  | .error _ => []

/-- What a daemon has printed that was started in the state `s₀`, and told to stop or not. -/
def textOutput (path : Bytes) (calls : StartCalls) (s₀ : MainState) (its : List Iteration)
    (stopped : Bool) : List Bytes :=
  startMessages path calls s₀ ++ (taken (iteration .text) s₀ its).flatMap turnLines ++
    if stopped ∧ (run (iteration .text) s₀ its).result.toBool = true then stopMessages else []

/-- The rounds in a text. -/
def readRounds (content : Bytes) : List (List (TextLine ℚ)) :=
  completeBlocks (· = .separator) (textLines.findRecords content)

/-- What a reader sees of a round. -/
def linesSeen (r : Readings) : List (TextLine ℚ) :=
  (linesOfRound r).map (TextLine.map shownNumber)

/-- A block is what a turn prints. -/
def IsBlockOf (c : MainState × Iteration) (block : List (TextLine ℚ)) : Prop :=
  ∃ reading, (iteration .text c.1 c.2).shown (ofSystem Action.printed?) = [reading] ∧
    block ++ [.separator] = linesSeen reading

/-! ### Legible rounds -/

/-- A speed that is read back. -/
structure LegibleSpeed (d : NetworkSpeedDisplay) : Prop where
  /-- It is finite. -/
  value : d.value.IsFinite
  /-- Its unit is on one line. -/
  newline_not_mem : newline ∉ d.unit
  /-- And has no blank at its end. -/
  getLast?_ne : d.unit.getLast? ≠ some 0x20

/-- A process whose names are on one line. -/
structure LegibleProcess (p : MonitoredProcess) : Prop where
  /-- The name it was looked up by. -/
  targetName : newline ∉ p.targetName.bytes
  /-- Its own. -/
  name : p.available = true → newline ∉ p.info.name.bytes
  /-- Its state. -/
  state : p.available = true → newline ∉ p.info.state.bytes

/-- Readings whose lines are read back. -/
structure LegibleReadings (r : Readings) : Prop where
  /-- The numbers are finite. -/
  finite : FiniteSnapshot r.snapshot
  /-- The processes. -/
  processes : ∀ p ∈ r.snapshot.processes, LegibleProcess p
  /-- The download speed. -/
  download : LegibleSpeed r.download
  /-- The upload speed. -/
  upload : LegibleSpeed r.upload

variable {r : Readings} {s s' s₀ : MainState} {c : MainState × Iteration} {its : List Iteration}
  {calls : StartCalls}

/-- The speeds that are shown. -/
theorem legible_convertNetworkSpeed {d : Double} {display : NetworkSpeedDisplay}
    (hd : d.IsFinite) (h : convertNetworkSpeed d = some display) : LegibleSpeed display := by
  have hshown : ∀ {value : Double} {unit : Bytes}, value.IsFinite → newline ∉ unit →
      unit.getLast? ≠ some 0x20 → some (NetworkSpeedDisplay.mk value unit) = some display →
      LegibleSpeed display := by
    intro value unit hvalue hnewline hlast heq
    rw [← Option.some.inj heq]
    exact ⟨hvalue, hnewline, hlast⟩
  unfold convertNetworkSpeed at h
  dsimp only at h
  split_ifs at h
  · exact hshown (by rfl) (by decide) (by decide) h
  · exact hshown (by rfl) (by decide) (by decide) h
  · exact hshown (by rfl) (by decide) (by decide) h
  · exact hshown hd (by decide) (by decide) h

/-- The lines of a process. -/
theorem legible_linesOfProcess {p : MonitoredProcess} (hfinite : FiniteProcess p)
    (h : LegibleProcess p) (index : ℕ) : ∀ l ∈ linesOfProcess index p, l.Legible := by
  unfold linesOfProcess
  by_cases havailable : p.available = true
  · rw [if_pos havailable]
    simp only [List.forall_mem_cons]
    refine ⟨h.name havailable, h.state havailable, hfinite.memoryMib havailable, ?_, by simp⟩
    split_ifs with hvalid
    · exact hfinite.cpuUsage hvalid
    · trivial
    · trivial
  · rw [if_neg havailable, List.forall_mem_singleton]
    show newline ∉ (if p.targetName.bytes ≠ [] then _ else _)
    split_ifs
    · exact h.targetName
    · decide

/-- **The lines of a round** are legible. -/
theorem legible_linesOfRound (h : LegibleReadings r) : ∀ l ∈ linesOfRound r, l.Legible := by
  unfold linesOfRound
  simp only [List.forall_mem_append, List.forall_mem_cons, List.mem_flatMap]
  refine ⟨⟨⟨trivial, trivial, ⟨h.finite.oneMinute, h.finite.fiveMinutes, h.finite.fifteenMinutes⟩,
    h.finite.cpuUsagePercent, h.finite.memoryUsagePercent, h.finite.diskUsagePercent, trivial,
    by simp⟩, ?_⟩, rfl, rfl, rfl, rfl, rfl, ?_, ?_, trivial, by simp⟩
  · rintro l ⟨p, hp, hl⟩
    have hmem := List.fst_mem_of_mem_zipIdx hp
    exact legible_linesOfProcess (h.finite.processes _ hmem) (h.processes _ hmem) _ l hl
  · exact ⟨h.download.value, h.download.newline_not_mem, h.download.getLast?_ne⟩
  · exact ⟨h.upload.value, h.upload.newline_not_mem, h.upload.getLast?_ne⟩

/-- They are read back. -/
theorem read_linesOfRound (h : LegibleReadings r) :
    ((linesOfRound r).map TextLine.text).filterMap readTextLine = linesSeen r := by
  rw [List.filterMap_map, linesSeen, ← List.filterMap_eq_map]
  exact List.filterMap_congr fun l hl => readTextLine_text (legible_linesOfRound h l hl)

/-- The last one, and no other, is the separator. -/
theorem exists_body (r : Readings) :
    ∃ body, linesOfRound r = body ++ [.separator] ∧ TextLine.separator ∉ body := by
  have hprocess : ∀ (index : ℕ) (p : MonitoredProcess),
      TextLine.separator ∉ linesOfProcess index p := by
    intro index p
    unfold linesOfProcess
    split_ifs <;> simp
  refine ⟨_, (List.append_assoc _ [_, _, _, _, _, _, _] [_]).symm, ?_⟩
  simp [hprocess]

theorem map_ne_separator {l : TextLine Double} (h : l ≠ .separator) (f : Double → ℚ) :
    l.map f ≠ .separator := by
  cases l with
  | separator => exact absurd rfl h
  | _ => exact nofun

theorem exists_block (r : Readings) : ∃ block : List (TextLine ℚ),
    linesSeen r = block ++ [.separator] ∧ ∀ l ∈ block, decide (l = .separator) = false := by
  obtain ⟨body, hbody, hnot⟩ := exists_body r
  refine ⟨body.map (TextLine.map shownNumber), ?_, ?_⟩
  · rw [linesSeen, hbody, List.map_append]
    rfl
  · intro line hline
    obtain ⟨l, hl, rfl⟩ := List.mem_map.mp hline
    refine decide_eq_false (map_ne_separator (fun heq => ?_) _)
    exact hnot (heq ▸ hl)

/-- The speeds of a sample, as they are shown. -/
theorem sampleNetwork_legible {calls : RoundCalls} {sample : NetworkSample × MainState}
    (h : (sampleNetwork calls s).result = .ok sample) :
    LegibleSpeed sample.1.download ∧ LegibleSpeed sample.1.upload := by
  obtain ⟨hdownload, hupload⟩ := sampleNetwork_finite h
  obtain ⟨network, -, h⟩ := result_bind_ok.mp h
  obtain ⟨time, -, h⟩ := result_bind_ok.mp h
  rw [result_emit_bind] at h
  obtain ⟨⟨speed, s₁⟩, -, h⟩ := result_bind_ok.mp h
  obtain ⟨download, hd, h⟩ := result_bind_ok.mp h
  obtain ⟨upload, hu, h⟩ := result_bind_ok.mp h
  obtain rfl := Except.ok.inj h
  rw [result_orStop_ok] at hd hu
  exact ⟨legible_convertNetworkSpeed hdownload hd, legible_convertNetworkSpeed hupload hu⟩

/-- **A process** that has been monitored. -/
theorem legible_of_monitored {config : AppConfig} {calls : ProcessCalls} {p p' : MonitoredProcess}
    (hname : newline ∉ p.targetName.bytes)
    (h : (monitorProcessOnce config calls p).result = .ok p') : LegibleProcess p' := by
  have hafter := monitorProcessOnce_ok h
  have hinfo : p'.available = true → (LogEntry.recovered p'.info).OneLine := by
    intro havailable
    rw [hafter.available] at havailable
    obtain ⟨info, hread⟩ := Option.isSome_iff_exists.mp havailable
    rw [hafter.info info hread]
    exact oneLine_readProcessInfo hread
  refine ⟨?_, fun havailable => (hinfo havailable).1, fun havailable => (hinfo havailable).2⟩
  rw [hafter.targetName]
  exact hname

/-- **A completed turn** prints a legible reading. -/
theorem legible_of_completed (hop : Operating s) (hone : OneLine s.config)
    (hs : (reloadIfRequested c.2.reload c.1).result = .ok s) (hload : c.2.round.FiniteLoad)
    (h : (iteration .text c.1 c.2).result = .ok s') :
    ∃ reading, (iteration .text c.1 c.2).shown (ofSystem Action.printed?) = [reading] ∧
      LegibleReadings reading := by
  obtain ⟨t, s₂, r, b, ht, hprinted, hfinite, hprocesses, -⟩ := reading_of_completed hload h
  obtain rfl := Except.ok.inj (hs.symm.trans ht)
  obtain ⟨hdownload, hupload⟩ := sampleNetwork_legible b.network_ok
  refine ⟨b.reading, hprinted, hfinite, fun p hp => ?_, hdownload, hupload⟩
  obtain ⟨i, hi, hmonitored⟩ := hprocesses p hp
  exact legible_of_monitored (namesOneLine_of_operating hop hone i hi) hmonitored

/-! ### Lines of a turn -/

theorem unread_of_aside {lines : List Bytes} (h : ∀ line ∈ lines, Aside line) :
    lines.filterMap readTextLine = [] :=
  List.filterMap_eq_nil_iff.mpr fun line hline => (h line hline).unread

/-- What an event prints is none of a round, or a round. -/
theorem printedLines_spec (hop : Operating s) (hone : OneLine s.config)
    (hs : (reloadIfRequested c.2.reload c.1).result = .ok s)
    (hlegible : ∀ reading ∈ (iteration .text c.1 c.2).shown (ofSystem Action.printed?),
      LegibleReadings reading) {e : Event} (he : e ∈ (iteration .text c.1 c.2).events) :
    (∀ line ∈ printedLines s e, newline ∉ line) ∧
      (printedLines s e).filterMap readTextLine =
        (ofSystem Action.printed? e).toList.flatMap linesSeen := by
  have hnames := namesOneLine_of_operating hop hone
  have haside : (∀ line ∈ printedLines s e, Aside line) → ofSystem Action.printed? e = none →
      (∀ line ∈ printedLines s e, newline ∉ line) ∧ (printedLines s e).filterMap readTextLine =
        (ofSystem Action.printed? e).toList.flatMap linesSeen := by
    intro hlines hnone
    rw [unread_of_aside hlines, hnone]
    exact ⟨fun line hline => (hlines line hline).newline_not_mem, rfl⟩
  obtain ⟨source, action⟩ := e
  cases source with
  | process i =>
    refine haside ?_ (if_neg nofun)
    cases action with
    | found pid =>
      obtain ⟨s₁, hs₁, hi, -⟩ := process_event_of_iteration he
      obtain rfl := Except.ok.inj (hs.symm.trans hs₁)
      show ∀ line ∈ [_], Aside line
      rw [List.forall_mem_singleton]
      exact aside_foundMessage (hnames i hi) pid
    | _ => exact fun line hline => absurd hline List.not_mem_nil
  | system =>
    cases action with
    | reloaded => exact haside (aside_reloadMessages hone hnames) rfl
    | printed format snapshot download upload =>
      have hmem : Readings.mk snapshot download upload ∈
          (iteration .text c.1 c.2).shown (ofSystem Action.printed?) :=
        List.mem_filterMap.mpr ⟨_, he, rfl⟩
      have hlines := legible_linesOfRound (hlegible _ hmem)
      refine ⟨fun line hline => ?_, ?_⟩
      · obtain ⟨l, hl, rfl⟩ := List.mem_map.mp hline
        exact newline_not_mem_text (hlines l hl)
      · exact (read_linesOfRound (hlegible _ hmem)).trans (by simp [ofSystem, Action.printed?])
    | _ => exact haside (fun line hline => absurd hline List.not_mem_nil) rfl

/-- The states of a run have their strings on one line. -/
theorem oneLine_of_inEffect {file : Option ConfigFile} {config : AppConfig}
    (h : InEffect file config) : OneLine config := by
  have hfile : OneLine (fileConfig file) := oneLine_configLoad (oneLine_defaults .zero) file
  intro k
  rw [setting_same h.same]
  exact hfile k

/-- What is read of what a turn prints is the round, if it is completed. -/
theorem turnLines_spec (hop : Operating c.1) {file : Option ConfigFile}
    (hconfig : InEffect file c.1.config) (hload : c.2.round.FiniteLoad) :
    (∀ line ∈ turnLines c, newline ∉ line) ∧ (turnLines c).filterMap readTextLine =
      ((iteration .text c.1 c.2).shown (ofSystem Action.printed?)).flatMap linesSeen := by
  cases hs : (reloadIfRequested c.2.reload c.1).result with
  | error reason =>
    have herror : (iteration .text c.1 c.2).result = .error reason := by
      rw [iteration, bind_of_error hs]
    have hnone : turnLines c = [] := by rw [turnLines, hs]
    rw [hnone, iteration_showsAtEnd _ _ _ _ herror]
    exact ⟨by simp, rfl⟩
  | ok s =>
    have hop' := reloadIfRequested_operating hop hs
    have hone := oneLine_of_inEffect (hconfig.reload hs)
    have hlegible : ∀ reading ∈ (iteration .text c.1 c.2).shown (ofSystem Action.printed?),
        LegibleReadings reading := by
      cases hresult : (iteration .text c.1 c.2).result with
      | error reason =>
        rw [iteration_showsAtEnd _ _ _ _ hresult]
        simp
      | ok s' =>
        obtain ⟨reading, hprinted, hreading⟩ := legible_of_completed hop' hone hs hload hresult
        rw [hprinted, List.forall_mem_singleton]
        exact hreading
    have hevent := fun {e} => printedLines_spec (e := e) hop' hone hs hlegible
    have hlines : turnLines c = (iteration .text c.1 c.2).events.flatMap (printedLines s) := by
      rw [turnLines, hs]
    rw [hlines]
    refine ⟨fun line hline => ?_, ?_⟩
    · obtain ⟨e, he, hline⟩ := List.mem_flatMap.mp hline
      exact (hevent he).1 line hline
    · rw [shown, List.filterMap_flatMap, List.filterMap_eq_flatMap_toList, List.flatMap_assoc]
      exact List.flatMap_congr fun e he => (hevent he).2

/-! ### Runs -/

/-- The readings that turns print are those of the turns that are completed. -/
theorem forall₂_readings (turns : List (MainState × Iteration))
    (hload : ∀ c ∈ turns, c.2.round.FiniteLoad) :
    List.Forall₂ (fun c reading =>
        (iteration .text c.1 c.2).shown (ofSystem Action.printed?) = [reading])
      (turns.filter fun c => (iteration .text c.1 c.2).result.toBool)
      (turns.flatMap fun c => (iteration .text c.1 c.2).shown (ofSystem Action.printed?)) := by
  induction turns with
  | nil => exact .nil
  | cons c turns ih =>
    rw [List.forall_mem_cons] at hload
    have ih := ih hload.2
    rw [List.flatMap_cons]
    cases hc : (iteration .text c.1 c.2).result with
    | error reason =>
      rw [iteration_showsAtEnd _ _ _ _ hc, List.filter_cons_of_neg (by simp [hc, Except.toBool])]
      exact ih
    | ok s' =>
      obtain ⟨_, _, _, b, -, hprinted, -⟩ := reading_of_completed hload.1 hc
      rw [hprinted, List.filter_cons_of_pos (by simp [hc, Except.toBool])]
      exact .cons hprinted ih

/-- The lines of a run, and what is read of them. -/
theorem textOutput_spec {path : Bytes} (hpath : newline ∉ path)
    (hload : ∀ it ∈ its, it.round.FiniteLoad) (stopped : Bool)
    (hs₀ : (start calls).result = .ok s₀) :
    (∀ line ∈ textOutput path calls s₀ its stopped, newline ∉ line) ∧
      (textOutput path calls s₀ its stopped).filterMap readTextLine =
        ((taken (iteration .text) s₀ its).flatMap fun c =>
          (iteration .text c.1 c.2).shown (ofSystem Action.printed?)).flatMap linesSeen := by
  have hop := start_operating hs₀
  have hone := oneLine_of_inEffect (start_inEffect hs₀)
  have hstart := aside_startMessages hpath calls hone (namesOneLine_of_operating hop hone)
  have hstop : ∀ line ∈ (if stopped ∧ (run (iteration .text) s₀ its).result.toBool = true
      then stopMessages else []), Aside line := by
    split_ifs
    · exact aside_stopMessages
    · simp
  have hturn : ∀ c ∈ taken (iteration .text) s₀ its, (∀ line ∈ turnLines c, newline ∉ line) ∧
      (turnLines c).filterMap readTextLine =
        ((iteration .text c.1 c.2).shown (ofSystem Action.printed?)).flatMap linesSeen := by
    intro c hc
    obtain ⟨n, hn⟩ := List.mem_iff_getElem?.mp hc
    obtain ⟨hconfig, hit⟩ := inEffect_of_taken hs₀ hn
    exact turnLines_spec (taken_operating hop hc) hconfig
      (hload _ (List.mem_iff_getElem?.mpr ⟨n, hit⟩))
  unfold textOutput
  constructor
  · simp only [List.forall_mem_append]
    refine ⟨⟨fun line hline => (hstart line hline).newline_not_mem, fun line hline => ?_⟩,
      fun line hline => (hstop line hline).newline_not_mem⟩
    obtain ⟨c, hc, hline⟩ := List.mem_flatMap.mp hline
    exact (hturn c hc).1 line hline
  · rw [List.filterMap_append, List.filterMap_append, unread_of_aside hstart, unread_of_aside hstop,
      List.nil_append, List.append_nil, List.filterMap_flatMap, List.flatMap_assoc]
    exact List.flatMap_congr fun c hc => (hturn c hc).2

/-- **The standard output of every run** with `--output text` is read as the rounds of the turns
that were completed, in order and each as it was printed. However much of it a reader has got, it
sees the first rounds, and nothing else. -/
theorem textOutput_rounds (path : Bytes) (hpath : newline ∉ path) (calls : StartCalls)
    (its : List Iteration) (hload : ∀ it ∈ its, it.round.FiniteLoad) (stopped : Bool)
    (s₀ : MainState) (hs₀ : (start calls).result = .ok s₀) :
    ∃ blocks, List.Forall₂ IsBlockOf (completedTurns .text s₀ its) blocks ∧
      readRounds (LineFormat.bare.stream (textOutput path calls s₀ its stopped)) = blocks ∧
      ∀ content, content <+: LineFormat.bare.stream (textOutput path calls s₀ its stopped) →
        readRounds content <+: blocks := by
  obtain ⟨hlines, hread⟩ := textOutput_spec hpath hload stopped hs₀
  have hturns : ∀ c ∈ taken (iteration .text) s₀ its, c.2.round.FiniteLoad := fun c hc =>
    hload _ ((isPrefix_map_snd_taken (iteration .text) s₀ its).subset (List.mem_map_of_mem hc))
  have hreadings := forall₂_readings _ hturns
  generalize ((taken (iteration .text) s₀ its).flatMap fun c =>
    (iteration .text c.1 c.2).shown (ofSystem Action.printed?)) = readings at hread hreadings
  choose block hblock hnot using exists_block
  have hfound : textLines.findRecords (LineFormat.bare.stream
      (textOutput path calls s₀ its stopped)) =
      (readings.map block).flatMap fun block => block ++ [.separator] := by
    rw [LineFormat.findRecords_text _ hlines, List.flatMap_map]
    exact hread.trans (List.flatMap_congr fun r _ => hblock r)
  have hrounds : readRounds (LineFormat.bare.stream (textOutput path calls s₀ its stopped)) =
      readings.map block := by
    rw [readRounds, hfound]
    refine completeBlocks_flatMap (fun b hb => ?_) (by simp)
    obtain ⟨r, -, rfl⟩ := List.mem_map.mp hb
    exact hnot r
  refine ⟨readings.map block, ?_, hrounds, fun content hcontent => ?_⟩
  · refine List.forall₂_map_right_iff.mpr (hreadings.imp fun c reading hprinted => ?_)
    exact ⟨reading, hprinted, (hblock reading).symm⟩
  · rw [← hrounds]
    refine completeBlocks_prefix ?_
    rw [LineFormat.findRecords_text _ hlines]
    exact LineFormat.findRecords_prefix _ hlines hcontent

/-- Two turns are two rounds. -/
theorem textOutput_rounds_twice :
    ∃ s₀ blocks, (start receivingStart).result = .ok s₀ ∧
      readRounds (LineFormat.bare.stream (textOutput (ascii "a.conf") receivingStart s₀
        [⟨none, receivingRound 1⟩, ⟨none, receivingRound 3⟩] true)) = blocks ∧
      blocks.length = 2 := by
  have hok : ((start receivingStart).result.map fun s₀ => (completedTurns .text s₀
      [⟨none, receivingRound 1⟩, ⟨none, receivingRound 3⟩]).length) = .ok 2 := by decide +kernel
  obtain ⟨s₀, hs₀, hlength⟩ := ok_of_map_ok hok
  obtain ⟨blocks, hblocks, hread, -⟩ := textOutput_rounds (ascii "a.conf") (by decide)
    receivingStart [⟨none, receivingRound 1⟩, ⟨none, receivingRound 3⟩]
    (by simp [finiteLoad_receivingRound]) true s₀ hs₀
  exact ⟨s₀, blocks, hs₀, hread, hblocks.length_eq.symm.trans hlength⟩

end EdgeSentinel.Monitor
