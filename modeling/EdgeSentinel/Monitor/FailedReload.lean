import EdgeSentinel.Monitor.SetUp

/-!
# Reloads that fail

When an attempt to reload the configuration fails, the daemon says that it keeps the
previous configuration, and goes on. What it goes on with is not always the state before
the attempt: `logger_init` stores the new size limit before anything that can fail.

## What is proved

* `attemptReload_keeps_iff` — a failed attempt leaves the state as it was exactly if the
  file was not accepted, or has the limit that was in effect anyway.
* `failedReloads_keep_iff` — the same for all the attempts of a run.
-/

namespace EdgeSentinel.Monitor

open CLib Config Trace Trace.Traced

/-- Two states between which the following rounds cannot tell. What is left out is
overwritten before it is read: the record read last, and the latest network sample. -/
structure SameState (s s' : MainState) : Prop where
  /-- The configuration. -/
  config : s'.config = s.config
  /-- The limit of the log size. -/
  currentLogMaxSize : s'.currentLogMaxSize = s.currentLogMaxSize
  /-- The processes. -/
  processes : s'.processes = s.processes
  /-- Their number. -/
  processCount : s'.processCount = s.processCount
  /-- The previous CPU sample. -/
  previousCpu : s'.previousCpu = s.previousCpu
  /-- The previous network sample. -/
  previousNetwork : s'.previousNetwork = s.previousNetwork
  /-- Its time. -/
  previousNetworkTime : s'.previousNetworkTime = s.previousNetworkTime
  /-- Whether the next network sample is only a baseline. -/
  networkBaselineReset : s'.networkBaselineReset = s.networkBaselineReset
  /-- The CPU level. -/
  cpuBaseline : s'.cpuBaseline = s.cpuBaseline
  /-- The memory level. -/
  memoryBaseline : s'.memoryBaseline = s.memoryBaseline
  /-- The disk level. -/
  diskBaseline : s'.diskBaseline = s.diskBaseline
  /-- The level of the system. -/
  systemBaseline : s'.systemBaseline = s.systemBaseline
  /-- The counter of the periodic log. -/
  logSampleCounter : s'.logSampleCounter = s.logSampleCounter

/-- The attempt does not touch the limit of the log size: the file is not accepted, or has
the limit in effect. -/
def KeepsLimit (calls : ReloadCalls) (s : MainState) : Prop :=
  ReloadAccepted calls s → (reloadConfig calls s).logMaxSize = s.currentLogMaxSize

/-- **A failed attempt** leaves the state as it was exactly if it does not touch the limit
of the log size. -/
theorem attemptReload_keeps_iff {calls : ReloadCalls} {s s' : MainState} {step : ReloadStep}
    (h : attemptReload calls s = (some step, s')) : SameState s s' ↔ KeepsLimit calls s := by
  obtain ⟨hnot, step', hs⟩ | ⟨hacc, step', network, time, hs, -⟩ := attemptReload_cases calls s
  · obtain ⟨-, rfl⟩ := Prod.mk.inj (h.symm.trans hs)
    exact ⟨fun _ hacc => absurd hacc hnot,
      fun _ => ⟨rfl, rfl, rfl, rfl, rfl, rfl, rfl, rfl, rfl, rfl, rfl, rfl, rfl⟩⟩
  · obtain ⟨-, rfl⟩ := Prod.mk.inj (h.symm.trans hs)
    exact ⟨fun hsame _ => hsame.currentLogMaxSize,
      fun hkeep => ⟨rfl, hkeep hacc, rfl, rfl, rfl, rfl, rfl, rfl, rfl, rfl, rfl, rfl, rfl⟩⟩

/-- Every failed attempt of a run leaves the state as it was. -/
def FailedReloadsKeepState (format : OutputFormat) (s : MainState) (its : List Iteration) : Prop :=
  ∀ c ∈ taken (iteration format) s its, ∀ calls, c.2.reload = some calls →
    ∀ step s', attemptReload calls c.1 = (some step, s') → SameState c.1 s'

/-- **In a run**, from whatever state, every failed attempt leaves the state as it was if and
only if none touches the limit of the log size. -/
theorem failedReloads_keep_iff (format : OutputFormat) (s : MainState) (its : List Iteration) :
    FailedReloadsKeepState format s its ↔
      ∀ c ∈ taken (iteration format) s its, ∀ calls, c.2.reload = some calls →
        ∀ step s', attemptReload calls c.1 = (some step, s') → KeepsLimit calls c.1 :=
  forall₂_congr fun _ _ => forall₅_congr fun _ _ _ _ h => attemptReload_keeps_iff h

/-- A reload that fails at the network. -/
def unluckyReload (file : Bytes) : ReloadCalls where
  configFile := some ⟨file, false, true⟩
  mkdir := fun _ => .created
  procNetDev := none
  clock := some ⟨0, 0⟩
  scans := fun _ => quietProc []
  getpid := 1

/-- A failed attempt may leave another limit behind: the daemon starts with 5, and goes on
with 7. -/
theorem failedReload_changes_limit : ¬ ∀ (format : OutputFormat) (calls : StartCalls)
    (its : List Iteration) (s : MainState), (start calls).result = .ok s →
    FailedReloadsKeepState format s its := by
  intro h
  have hrun : ((start (quietStart .zero (ascii "log_max_size=5\n") (quietProc []))).result.map
      fun s => (s.currentLogMaxSize,
        (attemptReload (unluckyReload (ascii "log_max_size=7\n")) s).1,
        (attemptReload (unluckyReload (ascii "log_max_size=7\n")) s).2.currentLogMaxSize)) =
      .ok (5, some .network, 7) := by decide +kernel
  obtain ⟨s, hs, hrun⟩ := ok_of_map_ok hrun
  obtain ⟨hbefore, hfail⟩ := Prod.mk.inj hrun
  obtain ⟨hstep, hafter⟩ := Prod.mk.inj hfail
  have hkeep := h .json _ [⟨some (unluckyReload (ascii "log_max_size=7\n")),
    quietRound (quietProc []) 1⟩] s hs _ List.mem_cons_self _ rfl .network
    (attemptReload (unluckyReload (ascii "log_max_size=7\n")) s).2 (by rw [← hstep])
  have hlimit := hkeep.currentLogMaxSize
  dsimp only at hlimit hbefore hafter
  rw [hbefore, hafter] at hlimit
  exact absurd hlimit (by decide)

end EdgeSentinel.Monitor
