import EdgeSentinel.Monitor.Progress

/-!
# Which rounds are completed

A round ends the program where a call of `monitor_process_once` returns -1, or where something
fails behind the loop. Here both are read off the state in front of the round and the answers in
it, for a system on which no record of the log is lost.

## The model

* `MessagesFit` — what is read of a process fits the texts about it; `ReachesProcess` and
  `AllFit` — so it is for the processes in front of one, and for all of them.
* `SystemAnswered` — the files of the system can be read, and its clock has advanced.

## What is proved

* `mem_taken_monitorProcess_iff` — the loop gets to a process exactly if all fits of those in
  front of it.
* `round_ok_iff` — **a round is completed** if and only if all fits of every process and the
  system is answered.
-/

namespace EdgeSentinel.Monitor

open CLib Config Trace Trace.Traced

variable {format : OutputFormat} {calls : RoundCalls} {s s' : MainState} {before : SamplingPoint}

/-! ### The loop over the processes -/

/-- What is read of the processes in front of `i` fits the texts about them. -/
def ReachesProcess (calls : RoundCalls) (s : MainState) (i : ProcessIndex) : Prop :=
  ∀ j < i, MessagesFit (calls.processes j) (s.processes j)

/-- So it is for all the processes in use. -/
def AllFit (calls : RoundCalls) (s : MainState) : Prop :=
  ∀ j, j.val < s.processCount → MessagesFit (calls.processes j) (s.processes j)

/-- Where no record is lost, a call returns 0 exactly if all fits. -/
theorem monitorProcessOnce_ok_iff {config : AppConfig} {calls : ProcessCalls}
    {p : MonitoredProcess} (hsucceed : calls.Succeed) :
    (∃ p', (monitorProcessOnce config calls p).result = .ok p') ↔ MessagesFit calls p := by
  constructor
  · rintro ⟨p', hp'⟩
    exact messagesFit_of_ok hp'
  · intro hfit
    cases hresult : (monitorProcessOnce config calls p).result with
    | ok p' => exact ⟨p', rfl⟩
    | error failure =>
      exact absurd (monitorProcessOnce_fails hfit failure hresult) (hsucceed.not_fails failure)

/-- So does a turn of the loop over the processes. -/
theorem monitorProcess_ok_iff {i : ProcessIndex} (hsucceed : (calls.processes i).Succeed) :
    (∃ s', (monitorProcess calls s i).result = .ok s') ↔
      MessagesFit (calls.processes i) (s.processes i) := by
  rw [← monitorProcessOnce_ok_iff hsucceed]
  constructor
  · rintro ⟨s', h⟩
    obtain ⟨p, hp, -⟩ := monitorProcess_ok h
    exact ⟨p, hp⟩
  · rintro ⟨p, hp⟩
    exact ⟨_, result_bind_ok.mpr ⟨p, result_rename_ok.mpr hp, rfl⟩⟩

/-- The loop over some processes comes to its end exactly if all fits. -/
theorem run_monitorProcess_ok_iff (hsucceed : ∀ i, (calls.processes i).Succeed)
    {is : List ProcessIndex} (hnd : is.Nodup) :
    (∃ s', (run (monitorProcess calls) s is).result = .ok s') ↔
      ∀ i ∈ is, MessagesFit (calls.processes i) (s.processes i) := by
  constructor
  · rintro ⟨s', h⟩ i hi
    exact messagesFit_of_ok ((run_monitorProcess_ok hnd h).1 i hi)
  · intro hfit
    cases hresult : (run (monitorProcess calls) s is).result with
    | ok s' => exact ⟨s', rfl⟩
    | error reason =>
      obtain ⟨i, hi, failure, -, hfailure⟩ := run_monitorProcess_stops hnd hresult
      exact absurd (monitorProcessOnce_fails (hfit i hi) failure hfailure)
        ((hsucceed i).not_fails failure)

/-- The loop takes the processes in their order, for as long as all fits. -/
theorem mem_taken_iff_of_sorted (hsucceed : ∀ i, (calls.processes i).Succeed)
    {is : List ProcessIndex} (hsorted : is.Pairwise (· < ·)) {i : ProcessIndex} :
    i ∈ (taken (monitorProcess calls) s is).map Prod.snd ↔
      i ∈ is ∧ ∀ j ∈ is, j < i → MessagesFit (calls.processes j) (s.processes j) := by
  induction is generalizing s with
  | nil => simp [taken]
  | cons k is ih =>
    obtain ⟨hk, hsorted⟩ := List.pairwise_cons.mp hsorted
    rw [taken, List.map_cons, List.mem_cons, List.mem_cons, List.forall_mem_cons]
    by_cases hik : i = k
    · subst hik
      refine iff_of_true (.inl rfl) ⟨.inl rfl, fun h => absurd h (lt_irrefl i), fun j hj hlt => ?_⟩
      exact absurd (hk j hj) hlt.asymm
    · rw [or_iff_right hik, or_iff_right hik]
      cases hstep : (monitorProcess calls s k).result with
      | error reason =>
        have hnot : ¬ MessagesFit (calls.processes k) (s.processes k) := fun hfit => by
          obtain ⟨s', hs'⟩ := (monitorProcess_ok_iff (hsucceed k)).mpr hfit
          cases hs'.symm.trans hstep
        exact iff_of_false List.not_mem_nil fun h => hnot (h.2.1 (hk i h.1))
      | ok s' =>
        have hfit := (monitorProcess_ok_iff (hsucceed k)).mp ⟨s', hstep⟩
        refine (ih hsorted).trans (and_congr_right fun _ => ?_)
        rw [and_iff_right fun _ => hfit]
        refine forall₂_congr fun j hj => ?_
        obtain ⟨p, -, rfl⟩ := monitorProcess_ok hstep
        dsimp only
        rw [Function.update_of_ne (hk j hj).ne']

theorem sorted_processIndices (count : ℕ) : (processIndices count).Pairwise (· < ·) :=
  (List.sortedLT_finRange _).pairwise.filter _

/-- **The loop gets to a process** exactly if all fits of those in front of it. -/
theorem mem_taken_monitorProcess_iff (hsucceed : ∀ i, (calls.processes i).Succeed)
    {i : ProcessIndex} (hi : i.val < s.processCount) :
    i ∈ (taken (monitorProcess calls) s (processIndices s.processCount)).map Prod.snd ↔
      ReachesProcess calls s i := by
  rw [mem_taken_iff_of_sorted hsucceed (sorted_processIndices _),
    and_iff_right (mem_processIndices.mpr hi)]
  refine forall_congr' fun j => ⟨fun h hlt => ?_, fun h _ => h⟩
  exact h (mem_processIndices.mpr (lt_trans hlt hi)) hlt

theorem monitorProcesses_ok_iff (hsucceed : ∀ i, (calls.processes i).Succeed) :
    (∃ s', (monitorProcesses calls s).result = .ok s') ↔ AllFit calls s := by
  refine (run_monitorProcess_ok_iff hsucceed (nodup_processIndices _)).trans ?_
  exact forall_congr' fun i => by rw [mem_processIndices]

/-! ### The system part of a round -/

/-- The clock of the sample that the next one is compared with, if there is one. -/
def clockBefore (s : MainState) : SamplingPoint where
  procStat := none
  procNetDev := none
  clock := if s.networkBaselineReset then none else some s.previousNetworkTime

/-- The files of the system can be read in this round, the records about it are written, and the
clock has advanced since the sample before. -/
def SystemAnswered (calls : RoundCalls) (s : MainState) : Prop :=
  ∀ reason, ¬ calls.Fails (clockBefore s) reason

theorem holdsClock_clockBefore (s : MainState) : HoldsClock s (clockBefore s) := by
  intro hreset
  rw [clockBefore, hreset]
  rfl

/-- A network that is read was readable, whatever is selected of it. -/
theorem not_networkUnreadable {config : AppConfig} {procNetDev : Option Bytes} {info : NetworkInfo}
    (h : readNetworkInfoFiltered config procNetDev = some info) :
    ¬ NetworkUnreadable procNetDev := by
  intro hunreadable
  unfold readNetworkInfoFiltered at h
  split_ifs at h
  cases hfile : procNetDev with
  | none =>
    rw [hfile] at h
    cases h
  | some file =>
    rw [hfile] at h
    have hshort := hunreadable file hfile
    match hpieces : fgetsPieces 512 file with
    | [] => simp [hpieces] at h
    | [_] => simp [hpieces] at h
    | _ :: _ :: _ =>
      rw [hpieces, List.length_cons, List.length_cons] at hshort
      omega

/-- A speed that is measured is one from a clock that has advanced. -/
theorem sampleNetwork_answered {r : NetworkSample × MainState}
    (h : (sampleNetwork calls s).result = .ok r) :
    ¬ NetworkUnreadable calls.procNetDev ∧ ¬ ClockStands (clockBefore s).clock calls.clock := by
  obtain ⟨network, hnetwork, h⟩ := result_bind_ok.mp h
  obtain ⟨time, htime, h⟩ := result_bind_ok.mp h
  rw [result_orStop_ok] at hnetwork htime
  rw [result_emit_bind] at h
  obtain ⟨⟨speed, s₁⟩, hspeed, -⟩ := result_bind_ok.mp h
  refine ⟨not_networkUnreadable hnetwork, ?_⟩
  rintro ⟨previous, now, hprevious, hnow, hstands⟩
  obtain rfl := Option.some.inj (htime.symm.trans hnow)
  unfold clockBefore at hprevious
  unfold measureNetworkSpeed at hspeed
  dsimp only at hprevious hspeed
  split_ifs at hprevious hspeed
  obtain rfl := Option.some.inj hprevious
  rw [result_emit_bind] at hspeed
  obtain ⟨speed', hspeed', -⟩ := result_bind_ok.mp hspeed
  rw [result_orStop_ok, calculateNetworkSpeed, if_pos hstands] at hspeed'
  cases hspeed'

/-- A system part that is completed was answered. -/
theorem systemAnswered_of_ok {r : CpuTimes × MainState}
    (hstatus : calls.systemStatusLogWritten = true) (hperiodic : calls.periodicLogWritten = true)
    (h : (monitorSystem format calls s).result = .ok r) : SystemAnswered calls s := by
  obtain ⟨b, -⟩ := monitorSystem_blocks h
  obtain ⟨_, _, _, _, _, hlevels⟩ : OnlyLevels s b.cpu.2.2.2 :=
    (gradeSystemCpu_yields calls s).ok _ b.cpu_ok
  obtain ⟨hnetwork, hclock⟩ := sampleNetwork_answered b.network_ok
  have hbefore : clockBefore b.cpu.2.2.2 = clockBefore s := by rw [hlevels]; rfl
  obtain ⟨hreads, -⟩ := sampleNetwork_ok b.network_ok
  intro reason hfails
  cases reason with
  | cpuTimes =>
    have hcpu := (gradeSystemCpu_readings b.cpu_ok).1
    cases hcpu.symm.trans hfails
  | network => exact hnetwork hfails
  | clock => cases hreads.time.symm.trans hfails
  | networkSpeed => exact hclock (hbefore ▸ hfails)
  | memory =>
    have hmemory := (gradeSystemMemory_readings b.memory_ok).1
    cases hmemory.symm.trans hfails
  | disk =>
    have hdisk := (gradeDisk_readings b.disk_ok).1
    rw [show calls.statvfs = none from hfails] at hdisk
    cases hdisk
  | systemStatusLog => exact absurd (hstatus.symm.trans hfails) (by decide)
  | periodicLog => exact absurd (hperiodic.symm.trans hfails) (by decide)
  | uptime => cases b.uptime_ok.symm.trans hfails
  | loadAverage => cases b.load_ok.symm.trans hfails
  | currentTime => cases b.time_ok.symm.trans hfails
  | _ => exact hfails

/-- **The system part of a round** is completed exactly if the system is answered. -/
theorem monitorSystem_ok_iff (hstatus : calls.systemStatusLogWritten = true)
    (hperiodic : calls.periodicLogWritten = true)
    (hcount : s.config.networkInterfaceCount.toNat ≤ maxNetworkInterfaces) :
    (∃ r, (monitorSystem format calls s).result = .ok r) ↔ SystemAnswered calls s := by
  constructor
  · rintro ⟨r, h⟩
    exact systemAnswered_of_ok hstatus hperiodic h
  · intro hanswered
    cases hresult : (monitorSystem format calls s).result with
    | ok r => exact ⟨r, rfl⟩
    | error reason =>
      exact absurd ((monitorSystem_stops (holdsClock_clockBefore s) hcount).error reason hresult)
        (hanswered reason)

/-! ### A round -/

/-- A round in which no record of the log is lost, and the clock can be read for every process. -/
structure RoundCalls.NothingLost (calls : RoundCalls) : Prop where
  /-- The calls for the processes succeed. -/
  processes : ∀ i, (calls.processes i).Succeed
  /-- The record of a system level is written. -/
  systemStatusLog : calls.systemStatusLogWritten = true
  /-- So is that of every tenth round. -/
  periodicLog : calls.periodicLogWritten = true

/-- **A round is completed** if and only if what is read of every process fits the texts about it,
and the system is answered. -/
theorem round_ok_iff (format : OutputFormat) (hcalls : calls.NothingLost) (hs : Operating s) :
    (∃ s', (round format calls s).result = .ok s') ↔ AllFit calls s ∧ SystemAnswered calls s := by
  -- the loop leaves what the system part compares with
  have hloop : ∀ s₁, (monitorProcesses calls s).result = .ok s₁ →
      ((∃ r, (monitorSystem format calls s₁).result = .ok r) ↔ SystemAnswered calls s) := by
    intro s₁ hs₁
    obtain ⟨-, -, heq⟩ := run_monitorProcess_ok (nodup_processIndices _) hs₁
    have hcount : s₁.config.networkInterfaceCount.toNat ≤ maxNetworkInterfaces := by
      rw [heq]
      exact hs.usable.networkInterfaceCount_le
    have hsame : SystemAnswered calls s₁ ↔ SystemAnswered calls s := by rw [heq]; rfl
    rw [monitorSystem_ok_iff hcalls.systemStatusLog hcalls.periodicLog hcount, hsame]
  rw [← monitorProcesses_ok_iff hcalls.processes]
  constructor
  · rintro ⟨s', h⟩
    obtain ⟨s₁, hs₁, h⟩ := result_bind_ok.mp h
    obtain ⟨r, hr, -⟩ := result_bind_ok.mp h
    exact ⟨⟨s₁, hs₁⟩, (hloop s₁ hs₁).mp ⟨r, result_rename_ok.mp hr⟩⟩
  · rintro ⟨⟨s₁, hs₁⟩, hanswered⟩
    obtain ⟨r, hr⟩ := (hloop s₁ hs₁).mpr hanswered
    exact ⟨_, result_bind_ok.mpr ⟨s₁, hs₁, result_bind_ok.mpr ⟨r, result_rename_ok.mpr hr, rfl⟩⟩⟩

/-- Whether the system is answered does not depend on the processes, nor on the configuration. -/
theorem systemAnswered_congr {calls' : RoundCalls}
    (hcalls : ∃ processes, calls' = { calls with processes := processes })
    (hclock : clockBefore s' = clockBefore s) :
    SystemAnswered calls' s' ↔ SystemAnswered calls s := by
  obtain ⟨processes, rfl⟩ := hcalls
  unfold SystemAnswered
  rw [hclock]
  exact forall_congr' fun reason => by cases reason <;> rfl

end EdgeSentinel.Monitor
