import EdgeSentinel.Monitor.Rounds

/-!
# Samples of CPU times

The CPU usage of a process is calculated from two samples of its CPU times. The sample before
is in the record, together with its time, the PID, and the flag that says that there is one;
a look-up, a process that is unavailable, a reading that fails, a reload and the clean-up
behind a round all change some of these.

## What is proved

* `usageCalculated_of_event` — a usage is calculated from the sample in the record, for a
  process that has kept its PID.
* `sampled_of_outcome` — there is a sample behind a call exactly if the call has read one.
* `cpuUsage_consecutive` — **in a run**, a usage is calculated from the samples of two
  consecutive rounds, both of which have read the same PID.
-/

namespace EdgeSentinel.Monitor

open CLib Config Trace Trace.Traced

variable {config : AppConfig} {calls : ProcessCalls} {p p' : MonitoredProcess}

/-! ### One call -/

/-- A call reads the CPU times of the available process with this PID. -/
structure ReadsCpuTimes (calls : ProcessCalls) (pid : Int32) (times : ProcessCpuTimes)
    (time : Timespec) : Prop where
  /-- The process is available. -/
  available : (readProcessInfo calls.status pid).isSome
  /-- Its CPU times are read. -/
  times : readProcessCpuTimes calls.stat pid = some times
  /-- And the clock. -/
  time : calls.clock = some time

/-- A CPU usage is calculated from the sample in the record, and one that this call reads for
the same PID. -/
structure UsageCalculated (calls : ProcessCalls) (p : MonitoredProcess)
    (previous current : ProcessCpuTimes) (elapsedSeconds : ℚ) : Prop where
  /-- The record has a sample. -/
  initialized : p.cpuSampleInitialized = true
  /-- Its CPU times. -/
  previous : previous = p.previousCpuTimes
  /-- The PID is kept. -/
  pid : pidInRound calls p = p.currentPid
  /-- This sample, and the time between the two. -/
  current : ∃ time, ReadsCpuTimes calls p.currentPid current time ∧
    elapsedSeconds = calculateElapsedSeconds p.previousCpuSampleTime time

/-- A record that has a sample behind the look-up has kept its PID. -/
theorem lookedUp_of_initialized (h : (lookedUp calls p).cpuSampleInitialized = true) :
    lookedUp calls p = p := by
  by_cases hfound : NewlyFound calls p
  · rw [lookedUp_of_newlyFound hfound] at h
    cases h
  · exact lookedUp_of_not_newlyFound hfound

/-- **A usage** is calculated from the sample in the record. -/
theorem usageCalculated_of_event {previous current : ProcessCpuTimes} {elapsedSeconds : ℚ}
    {usage : Double} (h : .cpuUsageCalculated previous current elapsedSeconds usage ∈
      (monitorProcessOnce config calls p).events) :
    UsageCalculated calls p previous current elapsedSeconds := by
  cases event_of_call h with
  | memory info hread h => cases gradeMemory_emits _ _ _ _ h
  | availability p₃ h =>
    exact absurd rfl (watchAvailability_emits (P := (· ≠ _)) (by simp) config calls p₃ _ h)
  | compared info times time hread htimes hclock h =>
    unfold compareCpuSamples at h
    by_cases hinitialized : (lookedUp calls p).cpuSampleInitialized = true
    swap
    · rw [if_pos (by simpa [wasRead] using hinitialized)] at h
      cases h
    have hkept := lookedUp_of_initialized hinitialized
    rw [if_neg (by simpa [wasRead] using hinitialized), hkept] at h
    rw [← currentPid_lookedUp, hkept] at hread htimes
    rcases List.mem_cons.mp h with h | h
    · obtain ⟨hprevious, hcurrent, helapsed, -⟩ := Action.cpuUsageCalculated.inj h
      subst hprevious hcurrent helapsed
      refine ⟨hkept ▸ hinitialized, rfl, ?_, time, ⟨?_, htimes, hclock⟩, rfl⟩
      · rw [← currentPid_lookedUp, hkept]
      · rw [hread]
        rfl
    · dsimp only at h
      split_ifs at h
      · cases gradeProcessCpu_emits _ _ _ _ h
      · cases h

/-- Whether it is the first or not, a sample that was read is in the record. -/
theorem wasSampled_sample (config : AppConfig) (calls : ProcessCalls) (times : ProcessCpuTimes)
    (time : Timespec) (p : MonitoredProcess) :
    (wasSampled config calls times time p).cpuSampleInitialized = true ∧
      (wasSampled config calls times time p).previousCpuTimes = times ∧
      (wasSampled config calls times time p).previousCpuSampleTime = time ∧
      (wasSampled config calls times time p).available = p.available ∧
      (wasSampled config calls times time p).currentPid = p.currentPid := by
  unfold wasSampled
  dsimp only
  split_ifs with hfirst husage
  · exact ⟨rfl, rfl, rfl, rfl, rfl⟩
  · exact ⟨eq_true_of_ne_false hfirst, rfl, rfl, rfl, rfl⟩
  · exact ⟨eq_true_of_ne_false hfirst, rfl, rfl, rfl, rfl⟩

/-- **The flag** is set behind a call exactly if the call has read CPU times. -/
theorem cpuSampleInitialized_iff (h : Outcome config calls p p') :
    p'.cpuSampleInitialized = true ↔ (readProcessInfo calls.status (pidInRound calls p)).isSome ∧
      (readProcessCpuTimes calls.stat (pidInRound calls p)).isSome := by
  cases h with
  | unavailable hread =>
    rw [hread]
    exact ⟨fun h => (by cases h), fun h => (by cases h.1)⟩
  | unreadable info hread htimes =>
    rw [htimes]
    exact ⟨fun h => (by cases h), fun h => (by cases h.2)⟩
  | sampled info times time hread htimes hclock =>
    rw [hread, htimes]
    exact ⟨fun _ => ⟨rfl, rfl⟩, fun _ => (wasSampled_sample config calls times time _).1⟩

/-- Then the sample in the record is the one read, and so is its PID. -/
theorem sampled_of_outcome (h : Outcome config calls p p')
    (hflag : p'.cpuSampleInitialized = true) :
    p'.available = true ∧ p'.currentPid = pidInRound calls p ∧
      ReadsCpuTimes calls p'.currentPid p'.previousCpuTimes p'.previousCpuSampleTime := by
  cases h with
  | unavailable hread => cases hflag
  | unreadable info hread htimes => cases hflag
  | sampled info times time hread htimes hclock =>
    obtain ⟨-, htimes', htime, havailable, hpid⟩ :=
      wasSampled_sample config calls times time (wasRead config info (lookedUp calls p))
    have hpid := hpid.trans (currentPid_lookedUp calls p)
    refine ⟨havailable, hpid, ?_⟩
    show ReadsCpuTimes calls (wasSampled _ _ _ _ _).currentPid
      (wasSampled _ _ _ _ _).previousCpuTimes (wasSampled _ _ _ _ _).previousCpuSampleTime
    rw [hpid, htimes', htime]
    exact ⟨by rw [hread]; rfl, htimes, hclock⟩

/-- A PID that is not 0 is monitored as it is. -/
theorem pidInRound_of_ne_zero (h : p.currentPid ≠ 0) : pidInRound calls p = p.currentPid :=
  if_neg fun hsearch => h hsearch.2

/-! ### Runs -/

variable {format : OutputFormat} {s₀ s s' : MainState} {its : List Iteration}
  {c : MainState × Iteration} {i : ProcessIndex}

/-- In a turn of the loop, this process is monitored under this PID. -/
def MonitoredUnder (c : MainState × Iteration) (i : ProcessIndex) (pid : Int32) : Prop :=
  ∃ s, (reloadIfRequested c.2.reload c.1).result = .ok s ∧ i.val < s.processCount ∧
    pidInRound (c.2.round.processes i) (s.processes i) = pid

/-- **A sample in a record** at the beginning of a round was read by the round before, under the
PID in the record, and the process was available. -/
theorem sample_of_initialized {calls : StartCalls} (hs₀ : (start calls).result = .ok s₀)
    (hc : c ∈ taken (iteration format) s₀ its)
    (hs : (reloadIfRequested c.2.reload c.1).result = .ok s) (hi : i.val < s.processCount)
    (hflag : (s.processes i).cpuSampleInitialized = true) :
    (s.processes i).available = true ∧ ∃ b, PrecedingRound format s₀ its b c ∧
      MonitoredUnder b i (s.processes i).currentPid ∧
      ReadsCpuTimes (b.2.round.processes i) (s.processes i).currentPid
        (s.processes i).previousCpuTimes (s.processes i).previousCpuSampleTime := by
  obtain ⟨targetName, configuredPid, currentPid, hfresh⟩ |
    ⟨b, hbefore, t, p, ht, hcount, hp, hleft⟩ := round_cases hs₀ hc hs hi
  · rw [hfresh] at hflag
    cases hflag
  have hp := monitorProcessOnce_outcome hp
  obtain hp' | ⟨hunavailable, hp'⟩ := hleft
  · rw [hp'] at hflag ⊢
    obtain ⟨havailable, hpid, hreads⟩ := sampled_of_outcome hp hflag
    exact ⟨havailable, b, hbefore, ⟨t, ht, hcount, hpid.symm⟩, hreads⟩
  · -- a PID is forgotten only where there is no sample
    rw [hp'] at hflag
    obtain ⟨havailable, -, -⟩ := sampled_of_outcome hp hflag
    rw [hunavailable] at havailable
    cases havailable

/-- A record that has a sample keeps its PID in the round. -/
theorem pidInRound_of_initialized {calls : StartCalls} (hs₀ : (start calls).result = .ok s₀)
    (hc : c ∈ taken (iteration format) s₀ its)
    (hs : (reloadIfRequested c.2.reload c.1).result = .ok s) (hi : i.val < s.processCount)
    (hflag : (s.processes i).cpuSampleInitialized = true) (calls : ProcessCalls) :
    pidInRound calls (s.processes i) = (s.processes i).currentPid := by
  obtain ⟨-, b, -, -, hreads⟩ := sample_of_initialized hs₀ hc hs hi hflag
  obtain ⟨info, hread⟩ := Option.isSome_iff_exists.mp hreads.available
  obtain ⟨hpos, -⟩ := readProcessInfo_some hread
  exact pidInRound_of_ne_zero (Int32.ne_of_lt hpos).symm

/-- **CPU usages** of a process are calculated from the samples of two consecutive rounds, with
no reload applied in between, that have both found it available under the same PID and read its
CPU times; the time between is that of the clocks read with them. At the end of a round there
is a sample exactly if that round has read CPU times, and while there is one, the PID stays. -/
theorem cpuUsage_consecutive (format : OutputFormat) (calls : StartCalls) (its : List Iteration)
    (s₀ : MainState) (hs₀ : (start calls).result = .ok s₀) (i : ProcessIndex) :
    ∀ c ∈ taken (iteration format) s₀ its,
      (∀ previous current elapsedSeconds usage,
        ⟨.process i, .cpuUsageCalculated previous current elapsedSeconds usage⟩ ∈
          (iteration format c.1 c.2).events →
        ∃ b, PrecedingRound format s₀ its b c ∧
          ∃ pid time time', MonitoredUnder b i pid ∧ MonitoredUnder c i pid ∧
            ReadsCpuTimes (b.2.round.processes i) pid previous time ∧
            ReadsCpuTimes (c.2.round.processes i) pid current time' ∧
            elapsedSeconds = calculateElapsedSeconds time time') ∧
      ∀ s s', (reloadIfRequested c.2.reload c.1).result = .ok s →
        (round format c.2.round s).result = .ok s' → i.val < s.processCount →
        ((s'.processes i).cpuSampleInitialized = true ↔ ∃ pid, MonitoredUnder c i pid ∧
          (readProcessInfo (c.2.round.processes i).status pid).isSome ∧
          (readProcessCpuTimes (c.2.round.processes i).stat pid).isSome) ∧
        ((s.processes i).cpuSampleInitialized = true →
          MonitoredUnder c i (s.processes i).currentPid ∧
          ((s'.processes i).cpuSampleInitialized = true →
            (s'.processes i).currentPid = (s.processes i).currentPid)) := by
  intro c hc
  constructor
  · intro previous current elapsedSeconds usage he
    obtain ⟨s, hs, hi, -, ha⟩ := process_event_of_iteration he
    obtain ⟨hflag, rfl, hpid, time', hreads', rfl⟩ := usageCalculated_of_event ha
    obtain ⟨-, b, hbefore, hunder, hreads⟩ := sample_of_initialized hs₀ hc hs hi hflag
    exact ⟨b, hbefore, _, _, time', hunder, ⟨s, hs, hi, hpid⟩, hreads, hreads', rfl⟩
  · intro s s' hs hround hi
    have hop : Operating s :=
      reloadIfRequested_operating (taken_operating (start_operating hs₀) hc) hs
    obtain ⟨p, hp, hleft⟩ := round_leaves hop hround hi
    have hp := monitorProcessOnce_outcome hp
    have hflag : (s'.processes i).cpuSampleInitialized = p.cpuSampleInitialized := by
      obtain h | ⟨-, h⟩ := hleft <;> rw [h]
    have hunder : ∀ pid, MonitoredUnder c i pid ↔
        pidInRound (c.2.round.processes i) (s.processes i) = pid := by
      intro pid
      refine ⟨?_, fun h => ⟨s, hs, hi, h⟩⟩
      rintro ⟨t, ht, -, h⟩
      obtain rfl := Except.ok.inj (hs.symm.trans ht)
      exact h
    simp only [hunder, hflag, exists_eq_left']
    refine ⟨cpuSampleInitialized_iff hp, fun hinitialized => ?_⟩
    have hkept := pidInRound_of_initialized hs₀ hc hs hi hinitialized (c.2.round.processes i)
    refine ⟨hkept, fun hflag' => ?_⟩
    obtain ⟨havailable, hpid, -⟩ := sampled_of_outcome hp hflag'
    obtain h | ⟨hunavailable, -⟩ := hleft
    · rw [h, hpid, hkept]
    · rw [hunavailable] at havailable
      cases havailable

/-- A round at the time `seconds` in which PID 7 has used four ticks, and so much memory. -/
def sampledRound (residentKb : Bytes) (seconds : ℤ) : RoundCalls :=
  let proc : ProcFs :=
    { entries := some [ascii "7"]
      status := fun pid => if pid = 7 then
        some (ascii "Name:\ta\nState:\tS\nPPid:\t1\nVmRSS:\t" ++ residentKb ++ ascii " kB\n")
        else none
      stat := fun _ => some ⟨ascii "7 (a) S 1 1 1 0 -1 0 0 0 0 0 3 1\n", true⟩ }
  { quietRound proc seconds with
    processes := fun _ => { quietProcess proc with clock := some ⟨seconds, 0⟩ } }

/-- Two such rounds. -/
def sampledRounds : List Iteration :=
  [⟨none, sampledRound (ascii "1024") 1⟩, ⟨none, sampledRound (ascii "1024") 3⟩]

/-- A start with this target. -/
def sampledStart : StartCalls :=
  quietStart .zero (ascii "process_names=a\n") (quietProc [(7, ascii "a")])

/-- Of two rounds, the second one calculates a usage from the sample of the first one. -/
theorem cpuUsage_consecutive_twice :
    ∃ s₀ b c, PrecedingRound .json s₀ sampledRounds b c ∧
      ∃ pid time time', MonitoredUnder b 0 pid ∧ MonitoredUnder c 0 pid ∧
        ReadsCpuTimes (b.2.round.processes 0) pid ⟨3, 1⟩ time ∧
        ReadsCpuTimes (c.2.round.processes 0) pid ⟨3, 1⟩ time' ∧
        2 = calculateElapsedSeconds time time' := by
  have hok : ((start sampledStart).result.map fun s₀ =>
      (taken (iteration .json) s₀ sampledRounds).any fun c =>
        decide (⟨.process 0, .cpuUsageCalculated ⟨3, 1⟩ ⟨3, 1⟩ 2 (.finite 0)⟩ ∈
          (iteration .json c.1 c.2).events)) = .ok true := by decide +kernel
  obtain ⟨s₀, hs₀, hany⟩ := ok_of_map_ok hok
  obtain ⟨c, hc, he⟩ := List.any_eq_true.mp hany
  obtain ⟨b, hbefore, h⟩ := (cpuUsage_consecutive .json sampledStart _ s₀ hs₀ 0 c hc).1 _ _ _ _
    (of_decide_eq_true he)
  exact ⟨s₀, b, c, hbefore, h⟩

end EdgeSentinel.Monitor
