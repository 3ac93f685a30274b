import EdgeSentinel.Monitor.CpuSamples
import EdgeSentinel.Monitor.Readings
import EdgeSentinel.Monitor.StatFile
import EdgeSentinel.Monitor.StatusFile
import EdgeSentinel.Monitor.TextOutput

/-!
# What a run prints of the processes

The record of a process goes from one round to the next, with its PID, a sample of its CPU times,
its levels and its flags; a search, a failure and a reload each reset some of these, and the
clean-up behind a round forgets the PID. The outputs print parts of it, chosen by its flags.

## The model

* `ProcessReading` — what the outputs say of a process, and no more (`outputs_of_reading`).
* `processReading` — the abstract view, which has no record: what is said of a process that is
  followed under a PID, from the answers of the round and the CPU times that the round right before
  has read under the same PID, if it has.
* `ProcessFigures`, `ReportsProcess` — what the kernel keeps of a process, and that its status and
  stat files stand for it.

## What is proved

* `reading_of_outcome` — a call that returns 0 leaves behind the abstract reading.
* `sample_iff` — **the sample** that a round compares with is the one that the round right before
  has read under this PID.
* `printed_processes` — every completed turn of a run prints the abstract readings.
* `printed_processFigures` — and so the figures that the kernel reports of a process, with the CPU
  usage since the turn before, for as long as it is there.
-/

namespace EdgeSentinel.Monitor

open CLib Config Trace Trace.Traced

/-! ### What the outputs say -/

/-- What is said of the CPU usage of a process. -/
inductive CpuReading where
  /-- `unavailable`. -/
  | unavailable
  /-- `collecting`: there is nothing to compare with, or nothing that it can be compared with. -/
  | collecting
  /-- The usage, with its level. -/
  | valid (usage : Double) (level : AlertLevel)
  deriving DecidableEq, Repr

/-- What is said of the memory of a process, and of the process itself. -/
structure StatusReading where
  /-- What was read. -/
  info : ProcessInfo
  /-- The memory. -/
  memoryMib : Double
  /-- Its level. -/
  memoryLevel : AlertLevel
  deriving DecidableEq, Repr

/-- What is said of a process. -/
structure ProcessReading where
  /-- The PID that is followed. -/
  pid : Int32
  /-- Nothing, if it is unavailable. -/
  status : Option StatusReading
  /-- The CPU usage. -/
  cpu : CpuReading
  deriving DecidableEq, Repr

namespace MonitoredProcess

/-- What a record says of the CPU usage. -/
def cpuReading (p : MonitoredProcess) : CpuReading :=
  if p.cpuUsageValid then .valid p.cpuUsage p.cpuLevel
  else if p.cpuSampleInitialized then .collecting
  else .unavailable

/-- What a record says of its process. -/
def reading (p : MonitoredProcess) : ProcessReading where
  pid := p.currentPid
  status := if p.available then some ⟨p.info, p.memoryMib, p.memoryLevel⟩ else none
  cpu := p.cpuReading

/-- The sample of CPU times in a record, with its time. -/
def sample (p : MonitoredProcess) : Option (ProcessCpuTimes × Timespec) :=
  if p.cpuSampleInitialized then some (p.previousCpuTimes, p.previousCpuSampleTime) else none

end MonitoredProcess

/-- What is said of the CPU usage of a process with this PID, from the answers of the round and the
sample before. -/
def cpuReading (config : AppConfig) (before : Option (ProcessCpuTimes × Timespec)) (pid : Int32)
    (calls : ProcessCalls) : CpuReading :=
  match readProcessCpuTimes calls.stat pid, before, calls.clock with
  | none, _, _ => .unavailable
  | some times, some (previous, previousTime), some time =>
    let usage := calculateProcessCpuUsage calls.ticksPerSecond previous times
      (calculateElapsedSeconds previousTime time)
    if (Double.finite 0).le usage then .valid usage (cpuLevelOf config usage) else .collecting
  | some _, _, _ => .collecting

/-- What is said of a process with this PID. -/
def processReading (config : AppConfig) (before : Option (ProcessCpuTimes × Timespec))
    (pid : Int32) (calls : ProcessCalls) : ProcessReading :=
  match readProcessInfo calls.status pid with
  | none => ⟨pid, none, .unavailable⟩
  | some info =>
    ⟨pid, some ⟨info, memoryMibOf info, memoryLevelOf config info⟩,
      cpuReading config before pid calls⟩

variable {config : AppConfig} {calls : ProcessCalls} {p p' q : MonitoredProcess} {pid : Int32}

/-- Two records with the same reading have the same flags, and the same values where these say
that there are any. -/
theorem eq_of_reading (h : q.reading = p.reading) :
    q.currentPid = p.currentPid ∧ q.available = p.available ∧
      (p.available = true → q.info = p.info ∧ q.memoryMib = p.memoryMib ∧
        q.memoryLevel = p.memoryLevel) ∧
      q.cpuUsageValid = p.cpuUsageValid ∧
      (p.cpuUsageValid = true → q.cpuUsage = p.cpuUsage ∧ q.cpuLevel = p.cpuLevel) ∧
      (p.cpuUsageValid = false → q.cpuSampleInitialized = p.cpuSampleInitialized) := by
  obtain ⟨hpid, hstatus, hcpu⟩ := ProcessReading.mk.inj h
  refine ⟨hpid, ?_⟩
  rw [← and_assoc]
  constructor
  · cases hq : q.available <;> cases hp : p.available <;> simp [hq, hp] at hstatus ⊢
    exact hstatus
  · unfold MonitoredProcess.cpuReading at hcpu
    cases hq : q.cpuUsageValid <;> cases hp : p.cpuUsageValid <;>
      cases hq' : q.cpuSampleInitialized <;> cases hp' : p.cpuSampleInitialized <;>
      simp [hq, hp, hq', hp'] at hcpu ⊢ <;> exact hcpu

/-- **The outputs** say nothing else: two records with the same reading are printed alike, as JSON
and as text. -/
theorem outputs_of_reading (hname : q.targetName = p.targetName) (h : q.reading = p.reading)
    (index : ℕ) : printProcess index q = printProcess index p ∧
      linesOfProcess index q = linesOfProcess index p := by
  obtain ⟨hpid, havailable, hstatus, hvalid, husage, hsample⟩ := eq_of_reading h
  have hstate : cpuSampleState q = cpuSampleState p := by
    unfold cpuSampleState
    rw [hvalid]
    cases hp : p.cpuUsageValid with
    | true => rfl
    | false => rw [hsample hp]
  constructor
  · unfold printProcess
    rw [hname, hpid, havailable, hstate, hvalid]
    cases hp : p.available with
    | false =>
      cases hp' : p.cpuUsageValid with
      | false => simp only [printOrNull, Bool.false_eq_true, if_false]
      | true => simp only [printOrNull, Bool.false_eq_true, if_false, husage hp']
    | true =>
      cases hp' : p.cpuUsageValid with
      | false => simp only [printOrNull, Bool.false_eq_true, if_false, hstatus hp]
      | true => simp only [hstatus hp, husage hp']
  · unfold linesOfProcess
    rw [hname, hpid, havailable, hvalid]
    cases hp : p.available with
    | false => simp only [Bool.false_eq_true, if_false]
    | true =>
      cases hp' : p.cpuUsageValid with
      | false => simp only [Bool.false_eq_true, if_false, hstatus hp, hsample hp']
      | true => simp only [if_true, hstatus hp, husage hp']

/-! ### One call -/

theorem reading_of_available (h : p.available = true) :
    p.reading = ⟨p.currentPid, some ⟨p.info, p.memoryMib, p.memoryLevel⟩, p.cpuReading⟩ := by
  unfold MonitoredProcess.reading
  rw [if_pos h]

/-- What is compared behind the readings says nothing. -/
theorem reading_wasCompared (p : MonitoredProcess) : (wasCompared p).reading = p.reading := rfl

section Sample

variable {info : ProcessInfo} {times : ProcessCpuTimes} {time : Timespec}

/-- Whatever becomes of the CPU usage, the rest of the record is what was read. -/
theorem wasSampled_read (config : AppConfig) (calls : ProcessCalls) (info : ProcessInfo)
    (times : ProcessCpuTimes) (time : Timespec) (p : MonitoredProcess) :
    let p' := wasSampled config calls times time (wasRead config info p)
    p'.info = info ∧ p'.memoryMib = memoryMibOf info ∧
      p'.memoryLevel = memoryLevelOf config info := by
  unfold wasSampled
  dsimp only
  split_ifs <;> exact ⟨rfl, rfl, rfl⟩

/-- The CPU usage is what the sample before makes of the times that were read. -/
theorem cpuReading_wasSampled (info : ProcessInfo) (p : MonitoredProcess)
    (htimes : readProcessCpuTimes calls.stat pid = some times) (hclock : calls.clock = some time) :
    (wasSampled config calls times time (wasRead config info p)).cpuReading =
      cpuReading config p.sample pid calls := by
  have hflag : (wasRead config info p).cpuSampleInitialized = p.cpuSampleInitialized := rfl
  have husage : usageSince calls times time (wasRead config info p) =
      usageSince calls times time p := rfl
  unfold wasSampled cpuReading MonitoredProcess.sample
  rw [htimes, hclock, hflag, husage]
  cases p.cpuSampleInitialized with
  | false => rfl
  | true =>
    rw [if_neg (by decide), if_pos rfl]
    change _ = if (Double.finite 0).le (usageSince calls times time p) then _ else _
    split_ifs with hle
    · rfl
    · rfl

end Sample

/-- **A call** that returns 0 leaves behind a record that says what the answers say. -/
theorem reading_of_outcome (h : Outcome config calls p p') :
    p'.reading = processReading config (lookedUp calls p).sample (pidInRound calls p) calls := by
  have hpid := currentPid_lookedUp calls p
  cases h with
  | unavailable hread =>
    unfold processReading
    rw [hread, ← hpid]
    rfl
  | unreadable info hread htimes =>
    unfold processReading cpuReading
    rw [hread, htimes, ← hpid]
    rfl
  | sampled info times time hread htimes hclock =>
    obtain ⟨-, -, -, havailable, hpid'⟩ :=
      wasSampled_sample config calls times time (wasRead config info (lookedUp calls p))
    obtain ⟨hinfo, hmemory, hlevel⟩ :=
      wasSampled_read config calls info times time (lookedUp calls p)
    unfold processReading
    rw [reading_wasCompared, reading_of_available havailable, hread, hpid', hinfo, hmemory, hlevel,
      cpuReading_wasSampled info _ htimes hclock]
    exact congrArg (fun pid => ProcessReading.mk pid _ _) hpid

/-! ### One round after the other -/

variable {format : OutputFormat} {s₀ s : MainState} {its : List Iteration}
  {b c : MainState × Iteration} {i : ProcessIndex} {startCalls : StartCalls}

/-- A process that is monitored in the round right before is in this one. -/
theorem PrecedingRound.processCount (h : PrecedingRound format s₀ its b c) (hs₀ : Operating s₀)
    (hunder : MonitoredUnder b i pid) (hs : (reloadIfRequested c.2.reload c.1).result = .ok s) :
    i.val < s.processCount := by
  obtain ⟨t, ht, hi, -⟩ := hunder
  obtain ⟨t', ht', hround⟩ := round_of_adjacent h.adjacent
  obtain rfl := Except.ok.inj (ht.symm.trans ht')
  have hop : Operating t := reloadIfRequested_operating (taken_operating hs₀ h.mem_left) ht
  obtain ⟨-, hsame⟩ | ⟨happlies, -⟩ := reloadIfRequested_cases hs
  · rwa [hsame.processCount, (round_ok hop.one_le hop.count_le hround).processCount]
  · exact absurd happlies h.unreloaded

/-- **The record** of a process that the round right before has read is the one that it has left
behind, with its PID: this is not forgotten. -/
theorem PrecedingRound.outcome (h : PrecedingRound format s₀ its b c) (hs₀ : Operating s₀)
    (hunder : MonitoredUnder b i pid)
    (hread : (readProcessInfo (b.2.round.processes i).status pid).isSome)
    (hs : (reloadIfRequested c.2.reload c.1).result = .ok s) :
    ∃ config p, Outcome config (b.2.round.processes i) p (s.processes i) ∧
      pidInRound (b.2.round.processes i) p = pid ∧ (s.processes i).currentPid = pid ∧ 0 < pid := by
  have hi := h.processCount hs₀ hunder hs
  obtain ⟨t, p, ht, -, hp, hleft⟩ := h.leaves hs₀ hs hi
  obtain ⟨t', ht', -, hpid⟩ := hunder
  obtain rfl := Except.ok.inj (ht.symm.trans ht')
  have hafter := monitorProcessOnce_ok hp
  obtain hkept | ⟨hunavailable, -⟩ := hleft
  · obtain ⟨info, hinfo⟩ := Option.isSome_iff_exists.mp hread
    refine ⟨t.config, t.processes i, hkept ▸ monitorProcessOnce_outcome hp, hpid, ?_,
      (readProcessInfo_some hinfo).1⟩
    rw [hkept, hafter.currentPid, hpid]
  · -- the process was available
    rw [hafter.available, hpid, hread] at hunavailable
    cases hunavailable

/-- A PID is followed as long as it is there to be read. -/
theorem MonitoredUnder.next (h : MonitoredUnder b i pid)
    (hbefore : PrecedingRound format s₀ its b c) (hs₀ : Operating s₀)
    (hread : (readProcessInfo (b.2.round.processes i).status pid).isSome)
    (hs : (reloadIfRequested c.2.reload c.1).result = .ok s) : MonitoredUnder c i pid := by
  obtain ⟨-, -, -, -, hpid, hpos⟩ := hbefore.outcome hs₀ h hread hs
  refine ⟨s, hs, hbefore.processCount hs₀ h hs, ?_⟩
  rw [pidInRound_of_ne_zero (by rw [hpid]; exact (Int32.ne_of_lt hpos).symm), hpid]

/-- A turn that applies no reload gets to its round. -/
theorem exists_reloadIfRequested {it : Iteration} (h : ¬ AppliesReload s it) :
    ∃ s₁, (reloadIfRequested it.reload s).result = .ok s₁ := by
  cases hreload : it.reload with
  | none => exact ⟨s, rfl⟩
  | some calls =>
    cases hattempt : attemptReload calls s with
    | mk step s₁ =>
      cases step with
      | none => exact absurd ⟨calls, hreload, by rw [hattempt]⟩ h
      | some step =>
        refine ⟨s₁, ?_⟩
        change (reload calls s).result = _
        rw [reload, hattempt, result_emit_bind]
        rfl

/-- **The PID** of a process is followed over any number of turns in which it can be read and no
reload is applied. -/
theorem MonitoredUnder.stretch {l : List (MainState × Iteration)} (hs₀ : Operating s₀)
    (hstretch : (b :: l) <:+: taken (iteration format) s₀ its)
    (hunreloaded : ∀ d ∈ l, ¬ AppliesReload d.1 d.2) (hunder : MonitoredUnder b i pid)
    (hread : ∀ d ∈ b :: l, (readProcessInfo (d.2.round.processes i).status pid).isSome) :
    ∀ d ∈ b :: l, MonitoredUnder d i pid := by
  induction l generalizing b with
  | nil =>
    intro d hd
    rwa [List.mem_singleton.mp hd]
  | cons e l ih =>
    obtain ⟨hread, hmore⟩ := List.forall_mem_cons.mp hread
    obtain ⟨hnot, hunreloaded⟩ := List.forall_mem_cons.mp hunreloaded
    have hpair : [b, e] <:+: taken (iteration format) s₀ its :=
      (List.prefix_append [b, e] l).isInfix.trans hstretch
    obtain ⟨s, hs⟩ := exists_reloadIfRequested hnot
    have hnext := hunder.next ⟨hpair, hnot⟩ hs₀ hread hs
    have hrest : (e :: l) <:+: taken (iteration format) s₀ its :=
      (List.suffix_cons b (e :: l)).isInfix.trans hstretch
    exact List.forall_mem_cons.mpr ⟨hunder, ih hrest hunreloaded hnext hmore⟩

/-- The round right before a turn of the loop has read this sample of the process, under the
PID. -/
def TicksBefore (format : OutputFormat) (s₀ : MainState) (its : List Iteration)
    (c : MainState × Iteration) (i : ProcessIndex) (pid : Int32)
    (sample : ProcessCpuTimes × Timespec) : Prop :=
  ∃ b, PrecedingRound format s₀ its b c ∧ MonitoredUnder b i pid ∧
    ReadsCpuTimes (b.2.round.processes i) pid sample.1 sample.2

/-- **The sample** with which a round compares is the one that the round right before has read
under the PID that it follows. -/
theorem sample_iff (hs₀ : (start startCalls).result = .ok s₀)
    (hc : c ∈ taken (iteration format) s₀ its)
    (hs : (reloadIfRequested c.2.reload c.1).result = .ok s) (hi : i.val < s.processCount)
    (calls : ProcessCalls) (sample : ProcessCpuTimes × Timespec) :
    (lookedUp calls (s.processes i)).sample = some sample ↔
      TicksBefore format s₀ its c i (pidInRound calls (s.processes i)) sample := by
  constructor
  · intro hsample
    unfold MonitoredProcess.sample at hsample
    split_ifs at hsample with hflag
    obtain rfl := Option.some.inj hsample
    have hkept := lookedUp_of_initialized hflag
    rw [hkept] at hflag ⊢
    obtain ⟨-, b, hbefore, hunder, hreads⟩ := sample_of_initialized hs₀ hc hs hi hflag
    rw [pidInRound_of_initialized hs₀ hc hs hi hflag calls]
    exact ⟨b, hbefore, hunder, hreads⟩
  · rintro ⟨b, hbefore, hunder, hreads⟩
    obtain ⟨config, p, houtcome, hpid, hcurrent, hpos⟩ :=
      hbefore.outcome (start_operating hs₀) hunder hreads.available hs
    have hflag : (s.processes i).cpuSampleInitialized = true := by
      rw [cpuSampleInitialized_iff houtcome, hpid]
      exact ⟨hreads.available, by rw [hreads.times]; rfl⟩
    obtain ⟨-, -, hread⟩ := sampled_of_outcome houtcome hflag
    rw [hcurrent] at hread
    have hne : (s.processes i).currentPid ≠ 0 := by
      rw [hcurrent]
      exact (Int32.ne_of_lt hpos).symm
    rw [lookedUp_of_not_newlyFound fun hnew => hne hnew.2.1]
    unfold MonitoredProcess.sample
    have htimes := Option.some.inj (hread.times.symm.trans hreads.times)
    have htime := Option.some.inj (hread.time.symm.trans hreads.time)
    rw [if_pos hflag, htimes, htime]

/-! ### Runs -/

/-- The processes are shown as they are. -/
theorem readings_processes {before : SamplingPoint} {baseline : Bool} {calls : RoundCalls}
    {processes : List MonitoredProcess} {reading : Readings}
    (h : readings config before baseline calls processes = some reading) :
    reading.snapshot.processes = processes := by
  unfold readings at h
  simp only [Option.bind_eq_bind, Option.bind_eq_some_iff] at h
  obtain ⟨_, -, _, -, _, -, _, -, _, -, _, -, _, -, _, -, _, -, _, -, _, -, h⟩ := h
  rw [← Option.some.inj h]

/-- The record of a process in a completed turn says what the answers of the turn say, and the
sample before. -/
theorem reading_of_turn {p : MonitoredProcess} (hs₀ : (start startCalls).result = .ok s₀)
    (hc : c ∈ taken (iteration format) s₀ its)
    (hs : (reloadIfRequested c.2.reload c.1).result = .ok s) (hi : i.val < s.processCount)
    (hp : (monitorProcessOnce s.config (c.2.round.processes i) (s.processes i)).result = .ok p) :
    ∃ pid before, MonitoredUnder c i pid ∧
      (∀ sample, before = some sample ↔ TicksBefore format s₀ its c i pid sample) ∧
      p.targetName.bytes = targetProcessName s.config i ∧
      p.reading = processReading s.config before pid (c.2.round.processes i) := by
  have hop : Operating s :=
    reloadIfRequested_operating (taken_operating (start_operating hs₀) hc) hs
  refine ⟨pidInRound (c.2.round.processes i) (s.processes i), _, ⟨s, hs, hi, rfl⟩,
    sample_iff hs₀ hc hs hi _, ?_, reading_of_outcome (monitorProcessOnce_outcome hp)⟩
  rw [(monitorProcessOnce_ok hp).targetName, hop.names i hi]

/-- **Every completed turn** of a run prints, once, its processes, in their order: as many as the
configuration in effect asks for, under its names, each as the answers to its own calls say for the
PID under which it is followed, with the CPU usage since the round right before where this has read
CPU times under the same PID, and only there. The PID may be that of an older search; of anything
else that is older the outputs say nothing. -/
theorem printed_processes (format : OutputFormat) (startCalls : StartCalls) (its : List Iteration)
    (s₀ : MainState) (hs₀ : (start startCalls).result = .ok s₀) :
    ∀ c ∈ taken (iteration format) s₀ its, ∀ s', (iteration format c.1 c.2).result = .ok s' →
      ∃ s reading processes, (reloadIfRequested c.2.reload c.1).result = .ok s ∧
        (iteration format c.1 c.2).shown (ofSystem Action.printed?) = [reading] ∧
        reading.snapshot.processes =
          (processIndices (monitoredProcessCount s.config)).map processes ∧
        ∀ i, i.val < monitoredProcessCount s.config → ∃ pid before, MonitoredUnder c i pid ∧
          (∀ sample, before = some sample ↔ TicksBefore format s₀ its c i pid sample) ∧
          (processes i).targetName.bytes = targetProcessName s.config i ∧
          (processes i).reading = processReading s.config before pid (c.2.round.processes i) ∧
          ∀ q : MonitoredProcess, q.targetName = (processes i).targetName →
            q.reading = (processes i).reading → ∀ index,
              printProcess index (processes i) = printProcess index q ∧
                linesOfProcess index (processes i) = linesOfProcess index q := by
  intro c hc s' hs'
  obtain ⟨_, s, _, processes, reading, -, hs, -, hmonitored, hreading, hshown⟩ :=
    readings_of_completed hs₀ hc hs'
  have hop : Operating s :=
    reloadIfRequested_operating (taken_operating (start_operating hs₀) hc) hs
  refine ⟨s, reading, processes, hs, hshown, ?_, fun i hi => ?_⟩
  · rw [readings_processes hreading, hop.count]
  · rw [← hop.count] at hi
    obtain ⟨pid, before, hunder, hbefore, hname, hsays⟩ :=
      reading_of_turn hs₀ hc hs hi (hmonitored i hi)
    exact ⟨pid, before, hunder, hbefore, hname, hsays, fun q hq hsame =>
      outputs_of_reading hq.symm hsame.symm⟩

/-- A round with one target prints one process. -/
theorem printed_processes_single :
    ∃ s₀ c reading p pid before, c ∈ taken (iteration .json) s₀ sampledRounds ∧
      (iteration .json c.1 c.2).shown (ofSystem Action.printed?) = [reading] ∧
      reading.snapshot.processes = [p] ∧ MonitoredUnder c 0 pid ∧
      p.reading = processReading c.1.config before pid (c.2.round.processes 0) := by
  have hok : ((start sampledStart).result.map fun s₀ =>
      (taken (iteration .json) s₀ sampledRounds).any fun c =>
        decide (monitoredProcessCount c.1.config = 1) &&
          (iteration .json c.1 c.2).result.toBool) = .ok true := by decide +kernel
  obtain ⟨s₀, hs₀, hany⟩ := ok_of_map_ok hok
  obtain ⟨c, hc, hturn⟩ := List.any_eq_true.mp hany
  obtain ⟨hone, hreturns⟩ := Bool.and_eq_true_iff.mp hturn
  have hgiven : c.2.reload = none := by
    have hmem := (isPrefix_map_snd_taken _ _ _).subset (List.mem_map_of_mem hc)
    unfold sampledRounds at hmem
    rw [List.mem_cons, List.mem_singleton] at hmem
    obtain heq | heq := hmem <;> rw [heq]
  cases hs' : (iteration .json c.1 c.2).result with
  | error r =>
    rw [hs'] at hreturns
    cases hreturns
  | ok s' =>
    obtain ⟨s, reading, processes, hs, hshown, hprocesses, hall⟩ :=
      printed_processes .json sampledStart sampledRounds s₀ hs₀ c hc s' hs'
    rw [hgiven] at hs
    obtain rfl := Except.ok.inj hs
    have hcount : monitoredProcessCount c.1.config = 1 := of_decide_eq_true hone
    rw [hcount, show processIndices 1 = [0] by decide] at hprocesses
    obtain ⟨pid, before, hunder, -, -, hsays, -⟩ := hall 0 (by rw [hcount]; decide)
    exact ⟨s₀, c, reading, processes 0, pid, before, hc, hshown, hprocesses, hunder, hsays⟩

/-! ### Figures -/

/-- What the kernel keeps of a process, and when it is asked. -/
structure ProcessFigures where
  /-- The name. -/
  name : Bytes
  /-- The state. -/
  state : Bytes
  /-- The PID of the parent. -/
  parentPid : ℤ
  /-- The resident memory, in kB. -/
  residentKb : ℕ
  /-- The CPU time that it has used, in ticks. -/
  ticks : ℕ
  /-- The clock. -/
  time : Timespec

/-- The answers to the calls for a process stand for these figures: the status file has a line for
each of the four, in any order and among any others, and the stat file is the line of the
process. -/
structure ReportsProcess (f : ProcessFigures) (pid : Int32) (calls : ProcessCalls) : Prop where
  /-- PIDs are positive. -/
  pid_pos : 0 < pid
  /-- The status file. -/
  status : ∃ content, calls.status.status pid = some content ∧
    (∀ line ∈ physicalLines content, line.length < 512) ∧
    FourLines (physicalLines content) f.name f.state f.parentPid f.residentKb
  /-- The stat file. -/
  stat : ∃ r : StatRecord, r.pid = pid ∧ newline ∉ r.name ∧ r.line.length < 4096 ∧
    calls.stat.stat pid = some ⟨r.line ++ [newline], true⟩ ∧
    decimalValue r.user + decimalValue r.system = f.ticks
  /-- The CPU time fits 64 bits. -/
  ticks_lt : f.ticks < 2 ^ 64
  /-- The clock. -/
  clock : calls.clock = some f.time

/-- The record shows these figures. -/
structure ShowsProcess (config : AppConfig) (f : ProcessFigures) (pid : Int32)
    (p : MonitoredProcess) : Prop where
  /-- The process is available. -/
  available : p.available = true
  /-- It is the one with this PID. -/
  currentPid : p.currentPid = pid
  /-- What is said of it. -/
  info : Records pid f.name f.state f.parentPid f.residentKb p.info
  /-- Its memory, in MiB. -/
  memoryMib : p.memoryMib = .finite ((f.residentKb : ℚ) / 1024)
  /-- The level of that. -/
  memoryLevel : p.memoryLevel = alertEvaluatePercentage p.memoryMib
    config.processMemoryWarningThresholdMib config.processMemoryCriticalThresholdMib

/-- What is said of the CPU usage between two times: it is the part of a CPU that the process has
used, in percent. -/
def cpuBetween (config : AppConfig) (g f : ProcessFigures) (ticksPerSecond : ℤ) : CpuReading :=
  let elapsedSeconds := calculateElapsedSeconds g.time f.time
  let usage : Double :=
    .finite (((f.ticks - g.ticks : ℕ) : ℚ) / ticksPerSecond / elapsedSeconds * 100)
  if 0 < elapsedSeconds ∧ g.ticks ≤ f.ticks ∧ 0 < ticksPerSecond then
    .valid usage (cpuLevelOf config usage)
  else .collecting

variable {f g : ProcessFigures}

/-- `read_process_info` finds the figures. -/
theorem ReportsProcess.exists_info (h : ReportsProcess f pid calls) :
    ∃ info, readProcessInfo calls.status pid = some info ∧
      Records pid f.name f.state f.parentPid f.residentKb info := by
  obtain ⟨content, hopen, hshort, hfour⟩ := h.status
  obtain ⟨info, hinfo, hawaits⟩ := hfour.exists_awaitsAll pid
  have hrun := readStatusLines_of_awaitsAll hawaits
  rw [hinfo.pid] at hrun
  exact ⟨info, (readProcessInfo_eq h.pid_pos hopen hshort).trans hrun, hinfo⟩

/-- `read_process_cpu_times` finds the CPU times. -/
theorem ReportsProcess.exists_times (h : ReportsProcess f pid calls) :
    ∃ times, readProcessCpuTimes calls.stat pid = some times ∧
      (times.userTicks + times.systemTicks).toNat = f.ticks := by
  obtain ⟨r, hpid, hname, hshort, hstat, hticks⟩ := h.stat
  have hending : [newline] = [] ∨ [newline].head? = some newline := .inr rfl
  obtain ⟨e, hline, he⟩ := exists_head?_fgetsPieces (r.newline_not_mem_line hname)
    (by simp [StatRecord.line]) hshort hending
  have h0 : 0 ∉ r.line ++ e := by
    rw [List.mem_append, not_or]
    refine ⟨r.zero_not_mem_line, ?_⟩
    obtain rfl | rfl := he <;> decide
  refine ⟨r.times,
    (readProcessCpuTimes_eq_some_iff h.pid_pos hstat hline h0).mpr ⟨rfl, r.showsTicks_line he⟩, ?_⟩
  obtain ⟨huser, hsystem⟩ := r.toNat_times
  rw [UInt64.toNat_add, huser, hsystem, hticks, Nat.mod_eq_of_lt h.ticks_lt]

/-- `calculate_process_cpu_usage` calculates the usage between two times. -/
theorem cpuReading_eq_cpuBetween {previous times : ProcessCpuTimes}
    (htimes : readProcessCpuTimes calls.stat pid = some times) (hclock : calls.clock = some f.time)
    (hg : (previous.userTicks + previous.systemTicks).toNat = g.ticks)
    (hf : (times.userTicks + times.systemTicks).toNat = f.ticks) :
    cpuReading config (some (previous, g.time)) pid calls =
      cpuBetween config g f calls.ticksPerSecond := by
  have hlt : times.userTicks + times.systemTicks < previous.userTicks + previous.systemTicks ↔
      f.ticks < g.ticks := by
    rw [UInt64.lt_iff_toNat_lt, hg, hf]
  unfold cpuReading cpuBetween calculateProcessCpuUsage
  rw [htimes, hclock]
  dsimp only
  simp only [hlt]
  by_cases helapsed : 0 < calculateElapsedSeconds g.time f.time
  swap
  · rw [if_pos (not_lt.mp helapsed), if_neg (by simp), if_neg fun h => helapsed h.1]
  rw [if_neg (not_le.mpr helapsed)]
  by_cases hticks : g.ticks ≤ f.ticks
  swap
  · rw [if_pos (not_le.mp hticks), if_neg (by simp), if_neg fun h => hticks h.2.1]
  rw [if_neg (not_lt.mpr hticks)]
  by_cases hsecond : 0 < calls.ticksPerSecond
  swap
  · rw [if_pos (not_lt.mp hsecond), if_neg (by simp), if_neg fun h => hsecond h.2.2]
  have hdelta : (times.userTicks + times.systemTicks -
      (previous.userTicks + previous.systemTicks)).toNat = f.ticks - g.ticks := by
    rw [UInt64.toNat_sub_of_le _ _ (UInt64.le_iff_toNat_le.mpr (by rw [hg, hf]; exact hticks)), hg,
      hf]
  have hle : (Double.finite 0).le (.finite (((f.ticks - g.ticks : ℕ) : ℚ) / calls.ticksPerSecond /
      calculateElapsedSeconds g.time f.time * 100)) = true := by
    have hpos : (0 : ℚ) < calls.ticksPerSecond := Int.cast_pos.mpr hsecond
    rw [Double.le_finite, decide_eq_true_iff]
    positivity
  rw [if_neg (not_le.mpr hsecond), hdelta, if_pos hle, if_pos ⟨helapsed, hticks, hsecond⟩]

/-- A turn of the loop prints this record of process `i`, under this configuration. -/
def PrintsRecord (format : OutputFormat) (c : MainState × Iteration) (i : ProcessIndex)
    (config : AppConfig) (p : MonitoredProcess) : Prop :=
  ∃ s reading, (reloadIfRequested c.2.reload c.1).result = .ok s ∧ s.config = config ∧
    (iteration format c.1 c.2).shown (ofSystem Action.printed?) = [reading] ∧
    reading.snapshot.processes[i.val]? = some p

theorem getElem?_processIndices {count : ℕ} (hcount : count ≤ maxMonitoredProcesses)
    (hi : i.val < count) : (processIndices count)[i.val]? = some i := by
  have hall : ∀ n : Fin (maxMonitoredProcesses + 1), ∀ i : ProcessIndex, i.val < n.val →
      (processIndices n.val)[i.val]? = some i := by decide
  exact hall ⟨count, Nat.lt_succ_of_le hcount⟩ i hi

/-- A record says these figures if it says what the answers say. -/
theorem showsProcess_of_reading {before : Option (ProcessCpuTimes × Timespec)}
    (h : ReportsProcess f pid calls) (hp : p.reading = processReading config before pid calls) :
    ShowsProcess config f pid p ∧ p.cpuReading = cpuReading config before pid calls := by
  obtain ⟨info, hinfo, hrecords⟩ := h.exists_info
  unfold processReading at hp
  rw [hinfo] at hp
  have havailable : p.available = true := by
    by_contra hnot
    have hstatus := congrArg ProcessReading.status hp
    unfold MonitoredProcess.reading at hstatus
    rw [if_neg hnot] at hstatus
    cases hstatus
  rw [reading_of_available havailable] at hp
  obtain ⟨hpid, hstatus, hcpu⟩ := ProcessReading.mk.inj hp
  obtain ⟨rfl, hmemory, hlevel⟩ := StatusReading.mk.inj (Option.some.inj hstatus)
  refine ⟨⟨havailable, hpid, hrecords, ?_, ?_⟩, hcpu⟩
  · rw [hmemory, memoryMibOf, hrecords.memoryKb]
  · rw [hlevel, hmemory]
    rfl

/-- What a completed turn prints of a process that it follows under a PID. -/
theorem printsRecord_of_completed {s' : MainState} (hs₀ : (start startCalls).result = .ok s₀)
    (hc : c ∈ taken (iteration format) s₀ its) (hunder : MonitoredUnder c i pid)
    (hs' : (iteration format c.1 c.2).result = .ok s') :
    ∃ config p before, PrintsRecord format c i config p ∧
      (∀ sample, before = some sample ↔ TicksBefore format s₀ its c i pid sample) ∧
      p.reading = processReading config before pid (c.2.round.processes i) := by
  obtain ⟨_, s, _, processes, reading, -, hs, -, hmonitored, hreading, hshown⟩ :=
    readings_of_completed hs₀ hc hs'
  have hop : Operating s :=
    reloadIfRequested_operating (taken_operating (start_operating hs₀) hc) hs
  obtain ⟨t, ht, hi, hpid⟩ := hunder
  obtain rfl := Except.ok.inj (hs.symm.trans ht)
  obtain ⟨pid', before, ⟨t, ht, -, hpid'⟩, hbefore, -, hsays⟩ :=
    reading_of_turn hs₀ hc hs hi (hmonitored i hi)
  obtain rfl := Except.ok.inj (hs.symm.trans ht)
  obtain rfl := hpid.symm.trans hpid'
  refine ⟨s.config, processes i, before, ⟨s, reading, hs, rfl, hshown, ?_⟩, hbefore, hsays⟩
  rw [readings_processes hreading, List.getElem?_map, getElem?_processIndices hop.count_le hi]
  rfl

/-- **A process that is there** is printed as the system reports it: over any stretch of turns
without a reload that is applied, if a target is followed under a PID in the first one and the
system reports figures for this PID in each of them, then every turn that is completed prints, for
this target, these figures, and the CPU usage since the turn before. The usage and the memory are
exact numbers, and so are the levels; those of C are rounded. -/
theorem printed_processFigures (format : OutputFormat) (startCalls : StartCalls)
    (its : List Iteration) (s₀ : MainState) (hs₀ : (start startCalls).result = .ok s₀)
    (i : ProcessIndex) (pid : Int32) (figures : MainState × Iteration → ProcessFigures)
    (b : MainState × Iteration) (l : List (MainState × Iteration))
    (hstretch : (b :: l) <:+: taken (iteration format) s₀ its)
    (hunreloaded : ∀ d ∈ l, ¬ AppliesReload d.1 d.2) (hunder : MonitoredUnder b i pid)
    (hreports : ∀ d ∈ b :: l, ReportsProcess (figures d) pid (d.2.round.processes i)) :
    ∀ d ∈ b :: l, ∀ s', (iteration format d.1 d.2).result = .ok s' →
      ∃ config p, PrintsRecord format d i config p ∧ ShowsProcess config (figures d) pid p ∧
        (∀ a, [a, d] <:+: b :: l → p.cpuReading =
          cpuBetween config (figures a) (figures d) (d.2.round.processes i).ticksPerSecond) ∧
        ((∀ sample, ¬ TicksBefore format s₀ its d i pid sample) → p.cpuReading = .collecting) := by
  intro d hd s' hs'
  have hop₀ := start_operating hs₀
  have hread : ∀ d ∈ b :: l, (readProcessInfo (d.2.round.processes i).status pid).isSome := by
    intro d hd
    obtain ⟨info, hinfo, -⟩ := (hreports d hd).exists_info
    rw [hinfo]
    rfl
  have hunder := hunder.stretch hop₀ hstretch hunreloaded hread
  obtain ⟨config, p, before, hprints, hbefore, hsays⟩ :=
    printsRecord_of_completed hs₀ (hstretch.subset hd) (hunder d hd) hs'
  obtain ⟨hshows, hcpu⟩ := showsProcess_of_reading (hreports d hd) hsays
  obtain ⟨times, htimes, hticks⟩ := (hreports d hd).exists_times
  refine ⟨config, p, hprints, hshows, fun a ha => ?_, fun hnone => ?_⟩
  · -- the turn before has read the sample that this one compares with
    have hdl : d ∈ l := by
      obtain hprefix | hinfix := List.infix_cons_iff.mp ha
      · exact (List.cons_prefix_cons.mp hprefix).2.subset (List.mem_singleton_self d)
      · exact hinfix.subset (List.mem_cons_of_mem a (List.mem_singleton_self d))
    have haStretch : a ∈ b :: l := ha.subset List.mem_cons_self
    obtain ⟨previous, hprevious, hg⟩ := (hreports a haStretch).exists_times
    have hsample : TicksBefore format s₀ its d i pid (previous, (figures a).time) :=
      ⟨a, ⟨ha.trans hstretch, hunreloaded d hdl⟩, hunder a haStretch,
        ⟨hread a haStretch, hprevious, (hreports a haStretch).clock⟩⟩
    rw [hcpu, (hbefore _).mpr hsample]
    exact cpuReading_eq_cpuBetween htimes (hreports d hd).clock hg hticks
  · have hnothing : before = none :=
      Option.eq_none_iff_forall_ne_some.mpr fun sample h => hnone sample ((hbefore sample).mp h)
    rw [hcpu, hnothing]
    unfold cpuReading
    rw [htimes]

/-- What is reported of PID 7 in the rounds below. -/
def sampledFigures (d : MainState × Iteration) : ProcessFigures where
  name := ascii "a"
  state := ascii "S"
  parentPid := 1
  residentKb := 1024
  ticks := 4
  time := (d.2.round.clock).getD ⟨0, 0⟩

/-- Fields 4 to 13 of its stat file. -/
def sampledFields : List Bytes := ["1", "1", "1", "0", "-1", "0", "0", "0", "0", "0"].map ascii

theorem decimalField_sampledFields : ∀ field ∈ sampledFields, DecimalField field := by
  have hfields : ∀ field ∈ sampledFields,
      field = ascii "-1" ∨ field = ascii "0" ∨ field = ascii "1" := by decide
  intro field hfield
  obtain rfl | rfl | rfl := hfields field hfield
  · exact .inr ⟨ascii "1", by decide, rfl⟩
  · exact .inl (by decide)
  · exact .inl (by decide)

/-- The file is the line of a process. -/
theorem exists_sampledRecord : ∃ r : StatRecord, r.pid = 7 ∧ newline ∉ r.name ∧
    r.line ++ [newline] = ascii "7 (a) S 1 1 1 0 -1 0 0 0 0 0 3 1\n" ∧
    decimalValue r.user + decimalValue r.system = 4 := by
  refine ⟨{
    pid := 7, pid_pos := by decide
    name := ascii "a", name_ok := by decide
    state := 0x53, state_ok := by decide
    skipped := sampledFields, skipped_length := by decide, skipped_ok := decimalField_sampledFields
    user := ascii "3", user_ok := by decide, user_lt := by decide
    system := ascii "1", system_ok := by decide, system_lt := by decide
    others := [], others_ok := fun _ h => absurd h List.not_mem_nil }, rfl, ?_, ?_, rfl⟩
  · decide
  · decide

/-- Its status file. -/
def sampledStatus : Bytes := ascii "Name:\ta\nState:\tS\nPPid:\t1\nVmRSS:\t1024 kB\n"

theorem fourLines_sampledStatus :
    FourLines (physicalLines sampledStatus) (ascii "a") (ascii "S") 1 1024 where
  name := ⟨ascii "\ta\n", by decide, by decide, by decide⟩
  state := ⟨ascii "\tS\n", by decide, by decide, by decide⟩
  parentPid := ⟨ascii "\t1\n", by decide,
    ⟨false, 1, [newline], numeralOf_eq_some_iff.mp (by decide), rfl⟩, by decide, by decide⟩
  memoryKb := ⟨ascii "\t1024 kB\n", by decide,
    ⟨ascii " kB\n", numeralOf_eq_some_iff.mp (by decide)⟩, by decide⟩

theorem reportsProcess_sampledRound {d : MainState × Iteration} {seconds : ℤ}
    (h : d.2.round = sampledRound (ascii "1024") seconds) :
    ReportsProcess (sampledFigures d) 7 (d.2.round.processes 0) where
  pid_pos := by decide
  status := ⟨sampledStatus, by rw [h]; rfl, by decide, fourLines_sampledStatus⟩
  stat := by
    obtain ⟨r, hpid, hname, hline, hticks⟩ := exists_sampledRecord
    have hlength := congrArg List.length hline
    rw [List.length_append] at hlength
    have hshort : (ascii "7 (a) S 1 1 1 0 -1 0 0 0 0 0 3 1\n").length < 4096 := by decide
    rw [h]
    exact ⟨r, hpid, hname, by omega, by rw [hline]; rfl, hticks⟩
  ticks_lt := show 4 < 2 ^ 64 by decide
  clock := by
    unfold sampledFigures
    rw [h]
    rfl

/-- Of two rounds, the second one prints the CPU usage since the first one. -/
theorem printed_processFigures_twice :
    ∃ s₀ b c config p, taken (iteration .json) s₀ sampledRounds = [b, c] ∧
      PrintsRecord .json c 0 config p ∧ ShowsProcess config (sampledFigures c) 7 p ∧
      p.cpuReading = cpuBetween config (sampledFigures b) (sampledFigures c)
        (c.2.round.processes 0).ticksPerSecond := by
  have hok : ((start sampledStart).result.map fun s₀ =>
      (decide (0 < s₀.processCount),
        decide (pidInRound (sampledRound (ascii "1024") 1 |>.processes 0) (s₀.processes 0) = 7),
        (taken (iteration .json) s₀ sampledRounds).map fun c =>
          (iteration .json c.1 c.2).result.toBool)) = .ok (true, true, [true, true]) := by
    decide +kernel
  obtain ⟨s₀, hs₀, hrun⟩ := ok_of_map_ok hok
  obtain ⟨hcount, hrun⟩ := Prod.mk.inj hrun
  obtain ⟨hpid, hturns⟩ := Prod.mk.inj hrun
  obtain ⟨b, l, htaken, -, hl⟩ := List.map_eq_cons_iff.mp hturns
  obtain ⟨c, l, rfl, hc, hnil⟩ := List.map_eq_cons_iff.mp hl
  obtain rfl := List.map_eq_nil_iff.mp hnil
  -- the turns are those that are given
  have hgiven : [b, c].map Prod.snd = sampledRounds := by
    have hprefix := isPrefix_map_snd_taken (iteration .json) s₀ sampledRounds
    rw [htaken] at hprefix
    exact hprefix.eq_of_length rfl
  obtain ⟨hb, hrest⟩ := List.cons.inj hgiven
  obtain ⟨hc', -⟩ := List.cons.inj hrest
  have hfirst : b.1 = s₀ := congrArg Prod.fst (List.cons.inj htaken).1.symm
  have hunder : MonitoredUnder b 0 7 := by
    refine ⟨s₀, ?_, of_decide_eq_true hcount, ?_⟩
    · rw [hb, hfirst]
      rfl
    · rw [hb]
      exact of_decide_eq_true hpid
  have hunreloaded : ¬ AppliesReload c.1 c.2 := by
    rintro ⟨calls, hcalls, -⟩
    rw [hc'] at hcalls
    cases hcalls
  cases hs' : (iteration .json c.1 c.2).result with
  | error r =>
    rw [hs'] at hc
    cases hc
  | ok s' =>
    obtain ⟨config, p, hprints, hshows, hcpu, -⟩ :=
      printed_processFigures .json sampledStart sampledRounds s₀ hs₀ 0 7 sampledFigures b [c]
        (by rw [htaken]) (List.forall_mem_singleton.mpr hunreloaded) hunder
        (List.forall_mem_cons.mpr ⟨@reportsProcess_sampledRound b 1 (by rw [hb]),
          List.forall_mem_singleton.mpr (@reportsProcess_sampledRound c 3 (by rw [hc']))⟩)
        c (List.mem_cons_of_mem b (List.mem_singleton_self c)) s' hs'
    exact ⟨s₀, b, c, config, p, htaken, hprints, hshows, hcpu b List.infix_rfl⟩

end EdgeSentinel.Monitor
