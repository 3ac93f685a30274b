import EdgeSentinel.Monitor.Output
import EdgeSentinel.Monitor.Record

/-!
# What a record says

The outputs print a record by its flags: its value fields if it is available, its CPU usage if
that is valid. No single line of `monitor_process_once` makes the flags and the values go
together.

## What is proved

* `coherent_of_outcome` — behind every call that returns 0 they do, whatever the record was
  before.
* `outputs_coherent` — so they do in everything that is printed, and an unavailable process is
  printed without any values.
-/

namespace EdgeSentinel.Monitor

open CLib Config Encoding Trace Trace.Traced

/-! ### Records -/

/-- The flags and the values of a record go together. -/
structure Coherent (config : AppConfig) (p : MonitoredProcess) : Prop where
  /-- An unavailable process has neither a CPU usage nor a sample of its CPU times. -/
  unavailable : p.available = false → p.cpuUsageValid = false ∧ p.cpuSampleInitialized = false
  /-- A CPU usage that is valid is that of an available process of which there is a sample, it
  is not negative, and its level is that of the thresholds in effect. -/
  cpuUsageValid : p.cpuUsageValid = true → p.available = true ∧ p.cpuSampleInitialized = true ∧
    (Double.finite 0).le p.cpuUsage ∧
    p.cpuLevel = alertEvaluatePercentage p.cpuUsage config.processCpuWarningThreshold
      config.processCpuCriticalThreshold
  /-- An available process has a PID, under which it was read, and its memory and the level of
  that are those of what was read. -/
  available : p.available = true → 0 < p.currentPid ∧ p.info.pid = p.currentPid ∧
    p.memoryMib = .finite ((p.info.residentMemoryKb.toNat : ℚ) / 1024) ∧
    p.memoryLevel = alertEvaluatePercentage p.memoryMib config.processMemoryWarningThresholdMib
      config.processMemoryCriticalThresholdMib

variable {config : AppConfig} {calls : ProcessCalls} {p p' : MonitoredProcess}

theorem coherent_wasCompared (h : Coherent config p) : Coherent config (wasCompared p) :=
  ⟨h.unavailable, h.cpuUsageValid, h.available⟩

/-- A sample makes a coherent record of one that was just read. -/
theorem coherent_wasSampled {info : ProcessInfo} {times : ProcessCpuTimes} {time : Timespec}
    (hpid : 0 < p.currentPid) (hinfo : info.pid = p.currentPid) :
    Coherent config (wasSampled config calls times time (wasRead config info p)) := by
  unfold wasSampled
  dsimp only
  split_ifs with hfirst husage
  · exact ⟨fun h => (by cases h), fun h => (by cases h), fun _ => ⟨hpid, hinfo, rfl, rfl⟩⟩
  · exact ⟨fun h => (by cases h), fun _ => ⟨rfl, eq_true_of_ne_false hfirst, husage, rfl⟩,
      fun _ => ⟨hpid, hinfo, rfl, rfl⟩⟩
  · exact ⟨fun h => (by cases h), fun h => (by cases h), fun _ => ⟨hpid, hinfo, rfl, rfl⟩⟩

/-- **The record behind a call** is coherent, whatever it was before. -/
theorem coherent_of_outcome (h : Outcome config calls p p') : Coherent config p' := by
  cases h with
  | unavailable hread =>
    exact ⟨fun _ => ⟨rfl, rfl⟩, fun h => (by cases h), fun h => (by cases h)⟩
  | unreadable info hread htimes =>
    obtain ⟨hpid, hinfo⟩ := readProcessInfo_some hread
    rw [← currentPid_lookedUp calls p] at hpid hinfo
    exact ⟨fun h => (by cases h), fun h => (by cases h), fun _ => ⟨hpid, hinfo, rfl, rfl⟩⟩
  | sampled info times time hread htimes hclock =>
    obtain ⟨hpid, hinfo⟩ := readProcessInfo_some hread
    rw [← currentPid_lookedUp calls p] at hpid hinfo
    exact coherent_wasCompared (coherent_wasSampled hpid hinfo)

/-! ### Outputs -/

/-- What is printed of a process that is unavailable. -/
def unavailableJson (index : ℕ) (p : MonitoredProcess) : Json := .object [
  (ascii "index", .number index),
  (ascii "target_name", .string p.targetName.bytes),
  (ascii "available", .bool false),
  (ascii "pid", .number p.currentPid.toInt),
  (ascii "name", .null),
  (ascii "parent_pid", .null),
  (ascii "state", .null),
  (ascii "memory_mib", .null),
  (ascii "memory_status", .null),
  (ascii "cpu_sample_state", .string (ascii "unavailable")),
  (ascii "cpu_usage_percent", .null),
  (ascii "cpu_status", .null)]

/-- A coherent record of an unavailable process is printed without values. -/
theorem parse_printProcess_unavailable (h : Coherent config p) (hunavailable : p.available = false)
    (index : ℕ) : Json.parse (printProcess index p) = some (unavailableJson index p) := by
  obtain ⟨hvalid, hsample⟩ := h.unavailable hunavailable
  have hfinite : FiniteProcess p :=
    ⟨fun h => absurd (hunavailable.symm.trans h) (by decide),
      fun h => absurd (hvalid.symm.trans h) (by decide)⟩
  have hjson : jsonOfProcess index p = unavailableJson index p := by
    unfold jsonOfProcess cpuSampleState
    rw [hunavailable, hvalid, hsample]
    rfl
  rw [printProcess_eq hfinite, ← List.append_nil (Json.Text.render _),
    Json.parse_render _ (by simp), value_processText hfinite, hjson]

variable {format : OutputFormat} {s : MainState}

/-- A round prints the records that its calls of `monitor_process_once` have left behind. -/
theorem printed_outcome (format : OutputFormat) (calls : RoundCalls) (s : MainState) :
    (round format calls s).Emits fun e => ∀ f snapshot download upload,
      e = ⟨.system, .printed f snapshot download upload⟩ → ∀ p ∈ snapshot.processes,
        ∃ i, (monitorProcessOnce s.config (calls.processes i) (s.processes i)).result = .ok p := by
  refine .bind ?_ fun s₁ hs₁ => .bind (.rename ?_) fun _ _ => .pure
  · refine .run (fun s i => (monitorProcess_emits calls s i).mono ?_) s _
    rintro e hsource f snapshot download upload rfl
    cases hsource
  · obtain ⟨hmonitored, -, heq⟩ := run_monitorProcess_ok (nodup_processIndices _) hs₁
    refine (monitorSystem_emits format calls s₁).mono ?_
    rintro a hsystem f snapshot download upload he p hp
    obtain rfl := (Event.mk.inj he).2
    change snapshot.processes = _ at hsystem
    rw [hsystem] at hp
    obtain ⟨i, hi, rfl⟩ := List.mem_map.mp hp
    have hcount : s₁.processCount = s.processCount := by rw [heq]
    exact ⟨i, hmonitored i (hcount ▸ hi)⟩

/-- **The records that are printed** are coherent. Behind every call of `monitor_process_once`
that returns 0 the record is, whatever it was before and whatever the operating system
answers; so every record that a round prints is coherent under the configuration in effect,
and one of an unavailable process is printed as JSON without any values. -/
theorem outputs_coherent :
    (∀ config calls p p', (monitorProcessOnce config calls p).result = .ok p' →
      Coherent config p') ∧
    ∀ format calls s f snapshot download upload,
      ⟨.system, .printed f snapshot download upload⟩ ∈ (round format calls s).events →
      ∀ p ∈ snapshot.processes, Coherent s.config p ∧
        (p.available = false →
          ∀ index, Json.parse (printProcess index p) = some (unavailableJson index p)) := by
  refine ⟨fun config calls p p' h => coherent_of_outcome (monitorProcessOnce_outcome h), ?_⟩
  intro format calls s f snapshot download upload he p hp
  obtain ⟨i, hi⟩ := printed_outcome format calls s _ he f snapshot download upload rfl p hp
  have hcoherent := coherent_of_outcome (monitorProcessOnce_outcome hi)
  exact ⟨hcoherent, fun h index => parse_printProcess_unavailable hcoherent h index⟩

end EdgeSentinel.Monitor
