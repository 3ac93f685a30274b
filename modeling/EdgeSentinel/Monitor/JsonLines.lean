import EdgeSentinel.Encoding.LineFormat
import EdgeSentinel.Monitor.Coherence
import EdgeSentinel.Monitor.Progress

/-!
# The stream of JSON lines

With `--output json` the standard output has nothing but the lines of `output_print_json`: the
progress messages go to the standard error then, and `config_print` is not called. The program that
reads the stream sees it grow, and sees it end wherever the daemon is ended.

## The model

* `standardOutput` — all that a computation prints there.
* `snapshotLines` — the format of the stream: a snapshot on a line, read with `Json.parse`.

## What is proved

* `finite_reading` — the doubles that a run prints are finite, if those of `/proc/loadavg` are.
* `standardOutput_lines` — **the standard output of every run** is read back: one line for each
  completed turn, in order, which is what that turn prints. If it is cut off anywhere, the reader
  sees the first of these lines and nothing else.
-/

namespace EdgeSentinel.Monitor

open CLib Config Encoding Trace Trace.Traced

/-! ### The stream -/

/-- What an action prints on the standard output with `--output json`. -/
def Action.stdout? : Action → Option Bytes
  | .printed .json snapshot _ _ => some (outputPrintJson snapshot)
  | _ => none

/-- The standard output of a computation with `--output json`. -/
def standardOutput {α : Type} (x : Traced Event Exit α) : Bytes :=
  (x.shown (ofSystem Action.stdout?)).flatten

/-- A snapshot on a line. -/
def snapshotLines : LineFormat MonitorSnapshot Json where
  write := fun s => (snapshotText s).render
  view := jsonOfSnapshot
  read := Json.parse

theorem write_snapshotLines (s : MonitorSnapshot) :
    snapshotLines.write s = (snapshotText s).render := rfl

theorem view_snapshotLines : snapshotLines.view = jsonOfSnapshot := rfl

theorem read_snapshotLines : snapshotLines.read = Json.parse := rfl

/-- A finite snapshot is printed on a line that is read back. -/
theorem legible_snapshotLines {s : MonitorSnapshot} (h : FiniteSnapshot s) :
    snapshotLines.Legible s where
  read_write := by
    have hempty : ∀ b ∈ ([] : Bytes), Json.isWhite b = true := by simp
    have hread := Json.parse_render (snapshotText s) hempty
    rw [List.append_nil, value_snapshotText h] at hread
    rw [read_snapshotLines, write_snapshotLines, view_snapshotLines, hread]
  newline_not_mem := by
    rw [write_snapshotLines]
    exact fun hmem => absurd (Json.printable_render _ _ hmem) (by decide)

theorem line_snapshotLines {s : MonitorSnapshot} (h : FiniteSnapshot s) :
    snapshotLines.line s = outputPrintJson s := by
  rw [LineFormat.line, write_snapshotLines, outputPrintJson_eq h]

/-! ### The doubles -/

variable {calls : RoundCalls} {config : AppConfig} {s s' s₀ : MainState} {its : List Iteration}
  {c : MainState × Iteration} {r : CpuTimes × MainState} {format : OutputFormat}

/-- Loads that are finite. -/
structure LoadAverage.Finite (l : LoadAverage) : Prop where
  /-- Over one minute. -/
  oneMinute : l.oneMinute.IsFinite
  /-- Over five minutes. -/
  fiveMinutes : l.fiveMinutes.IsFinite
  /-- Over fifteen minutes. -/
  fifteenMinutes : l.fifteenMinutes.IsFinite

/-- `/proc/loadavg` has no infinities and no NaN. -/
def RoundCalls.FiniteLoad (calls : RoundCalls) : Prop :=
  ∀ l, getLoadAverage calls.procLoadavg = some l → l.Finite

/-- **What is monitored** is finite, where it is valid. -/
theorem finiteProcess_of_outcome {calls : ProcessCalls} {p p' : MonitoredProcess}
    (h : Outcome config calls p p') : FiniteProcess p' := by
  have hcoherent := coherent_of_outcome h
  refine ⟨fun havailable => ?_, fun hvalid => ?_⟩
  · rw [(hcoherent.available havailable).2.2.1]
    rfl
  · cases h with
    | unavailable hread => cases hvalid
    | unreadable info hread htimes => cases hvalid
    | sampled info times time hread htimes hclock =>
      change (wasSampled config calls times time _).cpuUsageValid = true at hvalid
      show (wasSampled config calls times time _).cpuUsage.IsFinite
      obtain ⟨q, husage, -⟩ := calculateProcessCpuUsage_eq calls.ticksPerSecond
        (wasRead config info (lookedUp calls p)).previousCpuTimes times
        (wasRead config info (lookedUp calls p)).previousCpuSampleTime time
      unfold wasSampled usageSince at hvalid ⊢
      dsimp only at hvalid ⊢
      rw [husage] at hvalid ⊢
      split_ifs at hvalid ⊢
      · cases hvalid
      · rfl
      · cases hvalid

/-- The speeds of a sample are finite. -/
theorem sampleNetwork_finite {sample : NetworkSample × MainState}
    (h : (sampleNetwork calls s).result = .ok sample) :
    sample.1.speed.downloadBytesPerSec.IsFinite ∧ sample.1.speed.uploadBytesPerSec.IsFinite := by
  obtain ⟨network, -, h⟩ := result_bind_ok.mp h
  obtain ⟨time, -, h⟩ := result_bind_ok.mp h
  rw [result_emit_bind] at h
  obtain ⟨⟨speed, s₁⟩, hspeed, h⟩ := result_bind_ok.mp h
  obtain ⟨download, -, h⟩ := result_bind_ok.mp h
  obtain ⟨upload, -, h⟩ := result_bind_ok.mp h
  obtain rfl := Except.ok.inj h
  unfold measureNetworkSpeed at hspeed
  dsimp only at hspeed
  split_ifs at hspeed
  · obtain ⟨rfl, -⟩ := Prod.mk.inj (Except.ok.inj hspeed)
    exact ⟨rfl, rfl⟩
  · rw [result_emit_bind] at hspeed
    obtain ⟨speed', hspeed', hspeed⟩ := result_bind_ok.mp hspeed
    obtain ⟨rfl, -⟩ := Prod.mk.inj (Except.ok.inj hspeed)
    rw [result_orStop_ok] at hspeed'
    obtain ⟨-, hnone⟩ | ⟨q, q', -, -, hsome⟩ := calculateNetworkSpeed_cases s.previousNetwork
      network (calculateElapsedSeconds s.previousNetworkTime time)
    · cases hnone.symm.trans hspeed'
    · obtain rfl := Option.some.inj (hsome.symm.trans hspeed')
      exact ⟨rfl, rfl⟩

/-- A double below a bound is finite. -/
theorem isFinite_of_bounded {d : Double} {m : ℕ} (h : ∃ q, d = .finite q ∧ |q| < m) :
    d.IsFinite := by
  obtain ⟨q, rfl, -⟩ := h
  rfl

/-- **The doubles of a round** are finite, if those of `/proc/loadavg` are. -/
theorem SystemBlocks.finite_reading (b : SystemBlocks format calls s r) (hload : calls.FiniteLoad)
    (hprocesses : ∀ p ∈ b.reading.snapshot.processes, FiniteProcess p) :
    FiniteSnapshot b.reading.snapshot := by
  obtain ⟨hdownload, hupload⟩ := sampleNetwork_finite b.network_ok
  have husage := (gradeSystemCpu_readings b.cpu_ok).2.1
  have hfinite := hload _ b.load_ok
  refine ⟨hfinite.oneMinute, hfinite.fiveMinutes, hfinite.fifteenMinutes, ?_, ?_, ?_, hdownload,
    hupload, hprocesses⟩
  · show b.cpu.2.1.IsFinite
    rw [husage]
    exact isFinite_of_bounded (calculateCpuUsage_bounded _ _)
  · exact isFinite_of_bounded (getMemoryInfo_usagePercent (gradeSystemMemory_readings b.memory_ok).1)
  · exact isFinite_of_bounded (getDiskInfo_usagePercent (gradeDisk_readings b.disk_ok).1)

/-- A reload prints nothing. -/
theorem stdout?_of_ofReload (a : Action) (h : a.OfReload) : a.stdout? = none := by
  cases a <;> first | rfl | exact h.elim

/-- **A completed turn** prints a finite reading, of the processes as they have been monitored. -/
theorem reading_of_completed (hload : c.2.round.FiniteLoad)
    (h : (iteration format c.1 c.2).result = .ok s') :
    ∃ s s₂ r, ∃ b : SystemBlocks format c.2.round s₂ r,
      (reloadIfRequested c.2.reload c.1).result = .ok s ∧
      (iteration format c.1 c.2).shown (ofSystem Action.printed?) = [b.reading] ∧
      FiniteSnapshot b.reading.snapshot ∧
      (∀ p ∈ b.reading.snapshot.processes, ∃ i : ProcessIndex, i.val < s.processCount ∧
        (monitorProcessOnce s.config (c.2.round.processes i) (s.processes i)).result = .ok p) ∧
      ∀ {δ : Type} (view : Action → Option δ), (∀ a : Action, a.OfReload → view a = none) →
        (iteration format c.1 c.2).shown (ofSystem view) = b.actions.filterMap view := by
  obtain ⟨s, s₂, r, b, hs, hs₂, hr, -, hshown⟩ := blocks_of_completed h
  have hprocesses : ∀ p ∈ b.reading.snapshot.processes, ∃ i : ProcessIndex,
      i.val < s.processCount ∧
      (monitorProcessOnce s.config (c.2.round.processes i) (s.processes i)).result = .ok p := by
    -- the system part shows the processes as they have been monitored
    intro p hp
    obtain ⟨i, hi, rfl⟩ := List.mem_map.mp hp
    obtain ⟨hmonitored, -, heq⟩ := run_monitorProcess_ok (nodup_processIndices _) hs₂
    have hsame : SameProcesses s₂ r.2 := (monitorSystem_yields format _ s₂).ok _ hr
    have hcount : s₂.processCount = s.processCount := by rw [heq]
    rw [hsame.processCount, hcount] at hi
    rw [hsame.processes]
    exact ⟨i, mem_processIndices.mp hi, hmonitored i hi⟩
  refine ⟨s, s₂, r, b, hs, (hshown _ printed?_of_ofReload).trans b.printed_actions,
    b.finite_reading hload fun p hp => ?_, hprocesses, fun view hview => hshown view hview⟩
  obtain ⟨i, -, hmonitored⟩ := hprocesses p hp
  exact finiteProcess_of_outcome (monitorProcessOnce_outcome hmonitored)

/-- It prints the snapshot on its line. -/
theorem exists_finite_of_completed (hload : c.2.round.FiniteLoad)
    (h : (iteration .json c.1 c.2).result = .ok s') :
    ∃ reading, (iteration .json c.1 c.2).shown (ofSystem Action.printed?) = [reading] ∧
      (iteration .json c.1 c.2).shown (ofSystem Action.stdout?) =
        [outputPrintJson reading.snapshot] ∧ FiniteSnapshot reading.snapshot := by
  obtain ⟨s, s₂, r, b, -, hprinted, hfinite, -, hshown⟩ := reading_of_completed hload h
  refine ⟨b.reading, hprinted, ?_, hfinite⟩
  rw [hshown _ stdout?_of_ofReload, b.shown_actions (fun _ _ _ => rfl) (fun _ => rfl)
    (fun _ _ => rfl) (fun _ _ _ => rfl) fun _ _ _ => rfl,
    shown_of_hidden (watchSystemLevel_emits (fun _ _ _ => rfl) _ _ _ _),
    shown_of_hidden (writePeriodicLog_emits (fun _ _ _ => rfl) _ _ _ _)]
  rfl

/-- A turn that stops prints nothing. -/
theorem iteration_stdout_of_error {reason : Exit} (s : MainState) (it : Iteration)
    (h : (iteration format s it).result = .error reason) :
    (iteration format s it).shown (ofSystem Action.stdout?) = [] := by
  have hprinted := iteration_showsAtEnd format s it reason h
  refine List.filterMap_eq_nil_iff.mpr fun e he => ?_
  have hnone := List.filterMap_eq_nil_iff.mp hprinted e he
  unfold ofSystem at hnone ⊢
  split_ifs at hnone ⊢ with hsystem
  · cases haction : e.action with
    | printed f snapshot download upload =>
      rw [haction] at hnone
      cases hnone
    | _ => rfl
  · rfl

/-! ### Runs -/

/-- The turns of a run that are completed. -/
def completedTurns (format : OutputFormat) (s₀ : MainState) (its : List Iteration) :
    List (MainState × Iteration) :=
  (taken (iteration format) s₀ its).filter fun c => (iteration format c.1 c.2).result.toBool

/-- A line is what a turn prints. -/
def IsLineOf (c : MainState × Iteration) (line : Json) : Prop :=
  ∃ reading, (iteration .json c.1 c.2).shown (ofSystem Action.printed?) = [reading] ∧
    line = jsonOfSnapshot reading.snapshot

/-- What turns print is a stream of snapshots, one for each of them that is completed. -/
theorem exists_stream (turns : List (MainState × Iteration))
    (hload : ∀ c ∈ turns, c.2.round.FiniteLoad) :
    ∃ snapshots, (∀ x ∈ snapshots, FiniteSnapshot x) ∧
      (turns.flatMap fun c => (iteration .json c.1 c.2).shown (ofSystem Action.stdout?)).flatten =
        snapshotLines.stream snapshots ∧
      List.Forall₂ (fun c x => IsLineOf c (jsonOfSnapshot x))
        (turns.filter fun c => (iteration .json c.1 c.2).result.toBool) snapshots := by
  induction turns with
  | nil => exact ⟨[], by simp, rfl, .nil⟩
  | cons c turns ih =>
    rw [List.forall_mem_cons] at hload
    obtain ⟨snapshots, hfinite, hstream, hlines⟩ := ih hload.2
    rw [List.flatMap_cons, List.flatten_append, hstream]
    cases hc : (iteration .json c.1 c.2).result with
    | error reason =>
      refine ⟨snapshots, hfinite, ?_, ?_⟩
      · rw [iteration_stdout_of_error _ _ hc]
        rfl
      · rw [List.filter_cons_of_neg (by simp [hc, Except.toBool])]
        exact hlines
    | ok s' =>
      obtain ⟨reading, hprinted, hstdout, hreading⟩ := exists_finite_of_completed hload.1 hc
      refine ⟨reading.snapshot :: snapshots, List.forall_mem_cons.mpr ⟨hreading, hfinite⟩, ?_, ?_⟩
      · rw [hstdout, ← line_snapshotLines hreading]
        simp [LineFormat.stream]
      · rw [List.filter_cons_of_pos (by simp [hc, Except.toBool])]
        exact .cons ⟨reading, hprinted, rfl⟩ hlines

/-- The start prints nothing. -/
theorem start_stdout (calls : StartCalls) : (start calls).shown (ofSystem Action.stdout?) = [] := by
  refine shown_of_hidden (.bind (setUpProcesses_emits _ _ _ _ _) fun s _ => .check_bind ?_)
  refine .orStop_bind fun _ => .orStop_bind fun _ => .orStop_bind fun _ => .check_bind ?_
  exact .emit_bind rfl (.check_bind (.emit_bind rfl .pure))

/-- **The standard output of every run** with `--output json` is read back: as one line for each
completed turn, in order, which is what that turn prints. However much of it a reader has got, it
sees the first lines, and nothing else. -/
theorem standardOutput_lines (calls : StartCalls) (its : List Iteration)
    (hload : ∀ it ∈ its, it.round.FiniteLoad) (s₀ : MainState)
    (hs₀ : (start calls).result = .ok s₀) :
    ∃ lines, snapshotLines.readStream (standardOutput (daemon .json calls its)) = some lines ∧
      List.Forall₂ IsLineOf (completedTurns .json s₀ its) lines ∧
      ∀ content, content <+: standardOutput (daemon .json calls its) →
        ∃ seen, seen <+: lines ∧ snapshotLines.readStream content = some seen := by
  have hturns : ∀ c ∈ taken (iteration .json) s₀ its, c.2.round.FiniteLoad := fun c hc =>
    hload _ ((isPrefix_map_snd_taken (iteration .json) s₀ its).subset (List.mem_map_of_mem hc))
  obtain ⟨snapshots, hfinite, hstream, hlines⟩ := exists_stream _ hturns
  have hlegible : ∀ x ∈ snapshots, snapshotLines.Legible x := fun x hx =>
    legible_snapshotLines (hfinite x hx)
  have houtput : standardOutput (daemon .json calls its) = snapshotLines.stream snapshots := by
    rw [standardOutput, daemon, shown_bind_of_ok hs₀, start_stdout, List.nil_append, shown_run,
      hstream]
  refine ⟨snapshots.map jsonOfSnapshot, ?_, ?_, fun content hcontent => ?_⟩
  · rw [houtput, LineFormat.readStream_stream hlegible, view_snapshotLines]
  · exact List.forall₂_map_right_iff.mpr hlines
  · rw [houtput] at hcontent
    obtain ⟨whole, hwhole, hread⟩ := LineFormat.readStream_prefix hlegible hcontent
    exact ⟨whole.map jsonOfSnapshot, hwhole.map _, by rw [hread, view_snapshotLines]⟩

theorem finiteLoad_receivingRound (seconds : ℤ) : (receivingRound seconds).FiniteLoad := by
  have hload : getLoadAverage (some (ascii "0.0 0.0 0.0 1/1 1\n")) =
      some ⟨.finite 0, .finite 0, .finite 0⟩ := by decide +kernel
  intro l hl
  obtain rfl := Option.some.inj (hload.symm.trans hl)
  exact ⟨rfl, rfl, rfl⟩

/-- Two turns are two lines. -/
theorem standardOutput_lines_twice :
    ∃ lines, snapshotLines.readStream (standardOutput (daemon .json receivingStart
      [⟨none, receivingRound 1⟩, ⟨none, receivingRound 3⟩])) = some lines ∧ lines.length = 2 := by
  have hok : ((start receivingStart).result.map fun s₀ => (completedTurns .json s₀
      [⟨none, receivingRound 1⟩, ⟨none, receivingRound 3⟩]).length) = .ok 2 := by decide +kernel
  obtain ⟨s₀, hs₀, hlength⟩ := ok_of_map_ok hok
  obtain ⟨lines, hread, hlines, -⟩ := standardOutput_lines receivingStart
    [⟨none, receivingRound 1⟩, ⟨none, receivingRound 3⟩]
    (by simp [finiteLoad_receivingRound]) s₀ hs₀
  exact ⟨lines, hread, hlines.length_eq.symm.trans hlength⟩

end EdgeSentinel.Monitor
