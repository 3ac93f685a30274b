import EdgeSentinel.Monitor.Rounds

/-!
# Samples of the network

The speed of the network is calculated from two samples of its totals. The variables of `main`
that hold the two are written by the start, in the middle of attempts to reload that may still
fail, by reloads that are applied, and by rounds; and a reload may change which interfaces are
counted.

## What is proved

* `sampleNetwork_ok`, `round_samples` — what a round reads is the sample before the next round.
* `monitorSystem_speeds` — a round calculates its speed from the sample before it and its own.
* `networkSpeed_consecutive` — **in a run**, the two samples are those of two consecutive
  sampling points, read with the same configuration; right behind a reload there is no speed.
-/

namespace EdgeSentinel.Monitor

open CLib Config Trace Trace.Traced

variable {format : OutputFormat} {calls : RoundCalls} {s s' s₀ : MainState}
  {its : List Iteration} {c : MainState × Iteration}

/-! ### One round -/

/-- A sampling point reads these totals with this configuration, and the clock right behind. -/
structure ReadsNetwork (config : AppConfig) (procNetDev : Option Bytes) (clock : Option Timespec)
    (info : NetworkInfo) (time : Timespec) : Prop where
  /-- The totals. -/
  info : readNetworkInfoFiltered config procNetDev = some info
  /-- The clock. -/
  time : clock = some time

/-- The speed of a sample that is only a baseline, and how it is shown. -/
def NetworkSample.zero : NetworkSample :=
  ⟨⟨.finite 0, .finite 0⟩, ⟨.finite 0, ascii "B/s"⟩, ⟨.finite 0, ascii "B/s"⟩⟩

theorem measureNetworkSpeed_ok {network : NetworkInfo} {time : Timespec}
    {r : NetworkSpeed × MainState} (h : (measureNetworkSpeed network time s).result = .ok r) :
    r.2.currentNetwork = s.currentNetwork ∧ r.2.currentNetworkTime = s.currentNetworkTime ∧
      r.2.networkBaselineReset = false ∧
      (s.networkBaselineReset = true → r.1 = ⟨.finite 0, .finite 0⟩) := by
  unfold measureNetworkSpeed at h
  by_cases hreset : s.networkBaselineReset = true
  · rw [if_pos hreset] at h
    obtain rfl := Except.ok.inj h
    exact ⟨rfl, rfl, rfl, fun _ => rfl⟩
  · rw [if_neg hreset, result_emit_bind] at h
    obtain ⟨speed, -, h⟩ := result_bind_ok.mp h
    obtain rfl := Except.ok.inj h
    exact ⟨rfl, rfl, eq_false_of_ne_true hreset, fun h => absurd h hreset⟩

/-- **The sample of a round** is kept, and the next one is compared with it. -/
theorem sampleNetwork_ok {r : NetworkSample × MainState}
    (h : (sampleNetwork calls s).result = .ok r) :
    ReadsNetwork s.config calls.procNetDev calls.clock r.2.currentNetwork
        r.2.currentNetworkTime ∧
      r.2.networkBaselineReset = false ∧ (s.networkBaselineReset = true → r.1 = .zero) := by
  obtain ⟨network, hnetwork, h⟩ := result_bind_ok.mp h
  obtain ⟨time, htime, h⟩ := result_bind_ok.mp h
  rw [result_orStop_ok] at hnetwork htime
  rw [result_emit_bind] at h
  obtain ⟨⟨speed, s₁⟩, hspeed, h⟩ := result_bind_ok.mp h
  obtain ⟨download, hdownload, h⟩ := result_bind_ok.mp h
  obtain ⟨upload, hupload, h⟩ := result_bind_ok.mp h
  rw [result_orStop_ok] at hdownload hupload
  obtain rfl := Except.ok.inj h
  obtain ⟨hcurrent, hcurrentTime, hreset, hzero⟩ := measureNetworkSpeed_ok hspeed
  dsimp only at hcurrent hcurrentTime hreset hzero hdownload hupload ⊢
  rw [hcurrent, hcurrentTime]
  refine ⟨⟨hnetwork, htime⟩, hreset, fun h => ?_⟩
  have hshown : convertNetworkSpeed (.finite 0) = some ⟨.finite 0, ascii "B/s"⟩ := by
    decide +kernel
  obtain rfl := hzero h
  obtain rfl := Option.some.inj (hshown.symm.trans hdownload)
  obtain rfl := Option.some.inj (hshown.symm.trans hupload)
  rfl

theorem forgetUnavailable_eq (s : MainState) :
    ∃ processes, forgetUnavailable s = { s with processes := processes } := by
  unfold forgetUnavailable
  split_ifs
  · exact ⟨_, rfl⟩
  · exact ⟨s.processes, rfl⟩

/-- **What a round reads** is the sample before the next round. -/
theorem round_samples (h : (round format calls s).result = .ok s') :
    ReadsNetwork s.config calls.procNetDev calls.clock s'.previousNetwork s'.previousNetworkTime ∧
      s'.networkBaselineReset = false := by
  obtain ⟨s₁, hs₁, h⟩ := result_bind_ok.mp h
  obtain ⟨⟨currentCpu, s₂⟩, hs₂, h⟩ := result_bind_ok.mp h
  obtain rfl := Except.ok.inj h
  obtain ⟨-, -, heq⟩ := run_monitorProcess_ok (nodup_processIndices _) hs₁
  rw [result_rename_ok] at hs₂
  rw [heq] at hs₂
  obtain ⟨t, sample, ⟨_, _, _, _, _, rfl⟩, hsample, ⟨_, _, _, _, _, rfl⟩⟩ :=
    (monitorSystem_samples format calls _).ok _ hs₂
  obtain ⟨hreads, hreset, -⟩ := sampleNetwork_ok hsample
  dsimp only
  obtain ⟨active, hactive⟩ := afterOutput_eq format _
  rw [hactive]
  obtain ⟨processes, hprocesses⟩ := forgetUnavailable_eq _
  rw [hprocesses]
  exact ⟨hreads, hreset⟩

/-! ### Speeds in one round -/

/-- The speeds of a round: one is calculated from the sample before the round and its own, but
not from one that is only a baseline. -/
def Action.OfSpeed (calls : RoundCalls) (s : MainState) : Action → Prop
  | .speedCalculated previous current elapsedSeconds =>
    s.networkBaselineReset = false ∧ previous = s.previousNetwork ∧
      ∃ time, ReadsNetwork s.config calls.procNetDev calls.clock current time ∧
        elapsedSeconds = calculateElapsedSeconds s.previousNetworkTime time
  | .printed _ snapshot download upload => s.networkBaselineReset = true →
    NetworkSample.mk ⟨snapshot.downloadBytesPerSecond, snapshot.uploadBytesPerSecond⟩ download
      upload = .zero
  | _ => True

theorem sampleNetwork_speeds (calls : RoundCalls) (s : MainState) :
    (sampleNetwork calls s).Emits (Action.OfSpeed calls s) := by
  unfold sampleNetwork
  cases hnetwork : readNetworkInfoFiltered s.config calls.procNetDev with
  | none => exact fun _ he => absurd he List.not_mem_nil
  | some network =>
    cases hclock : calls.clock with
    | none => exact fun _ he => absurd he List.not_mem_nil
    | some time =>
      have hmeasure : (measureNetworkSpeed network time
          { s with currentNetwork := network, currentNetworkTime := time }).Emits
          (Action.OfSpeed calls s) := by
        unfold measureNetworkSpeed
        split_ifs with hreset
        · exact .pure
        · exact .emit_bind ⟨eq_false_of_ne_true hreset, rfl, time, ⟨hnetwork, hclock⟩, rfl⟩
            (.orStop_bind fun _ => .pure)
      rw [orStop, pure_bind, orStop, pure_bind]
      refine .emit_bind trivial (.bind hmeasure fun r _ => ?_)
      exact .orStop_bind fun _ => .orStop_bind fun _ => .pure

/-- **The system part of a round** calculates its speed so. -/
theorem monitorSystem_speeds (format : OutputFormat) (calls : RoundCalls) (s : MainState) :
    (monitorSystem format calls s).Emits (Action.OfSpeed calls s) := by
  refine (monitorSystem_event format calls s).mono fun e he => ?_
  cases he with
  | level metric h => cases e <;> trivial
  | network s₁ hs₁ h =>
    obtain ⟨_, _, _, _, _, rfl⟩ := hs₁
    have hspeeds := sampleNetwork_speeds calls _ e h
    exact hspeeds
  | output s₁ sample snapshot hs₁ hsample hspeed hprocesses =>
    obtain ⟨_, _, _, _, _, rfl⟩ := hs₁
    intro hreset
    obtain ⟨-, -, hzero⟩ := sampleNetwork_ok hsample
    rw [hspeed, hzero hreset]

/-! ### Runs -/

/-- The sampling point before a turn of the loop, with the configuration, the totals and the
time read there: the round of the turn right before, or the start. -/
inductive SampledBefore (format : OutputFormat) (calls : StartCalls) (s₀ : MainState)
    (its : List Iteration) (c : MainState × Iteration) :
    AppConfig → NetworkInfo → Timespec → Prop where
  /-- The turn is the first one. -/
  | start {info : NetworkInfo} {time : Timespec} (hfirst : [c] <+: taken (iteration format) s₀ its)
      (h : ReadsNetwork s₀.config calls.procNetDev calls.clock info time) :
    SampledBefore format calls s₀ its c s₀.config info time
  /-- There is a turn right before it. -/
  | round {info : NetworkInfo} {time : Timespec} (b : MainState × Iteration) (t : MainState)
      (hadjacent : [b, c] <:+: taken (iteration format) s₀ its)
      (ht : (reloadIfRequested b.2.reload b.1).result = .ok t)
      (h : ReadsNetwork t.config b.2.round.procNetDev b.2.round.clock info time) :
    SampledBefore format calls s₀ its c t.config info time

/-- **The invariant of the samples**: at the `sleep` in front of a turn, the configuration in
effect is the one with which the sample before was read, and the next one is not only a
baseline. -/
theorem sampledBefore_of_taken {calls : StartCalls} (hs₀ : (start calls).result = .ok s₀)
    (hc : c ∈ taken (iteration format) s₀ its) :
    SampledBefore format calls s₀ its c c.1.config c.1.previousNetwork c.1.previousNetworkTime ∧
      c.1.networkBaselineReset = false := by
  obtain ⟨hfirst, hstate⟩ | ⟨b, hadjacent⟩ := adjacent_of_mem_taken hc
  · obtain ⟨_, _, _, hnetwork, htime, rfl⟩ := start_samples hs₀
    rw [hstate]
    exact ⟨.start hfirst ⟨hnetwork, htime⟩, rfl⟩
  · have hb : b ∈ taken (iteration format) s₀ its := hadjacent.subset List.mem_cons_self
    obtain ⟨t, ht, hround⟩ := round_of_adjacent hadjacent
    have hop : Operating t :=
      reloadIfRequested_operating (taken_operating (start_operating hs₀) hb) ht
    obtain ⟨hreads, hreset⟩ := round_samples hround
    rw [(round_ok hop.one_le hop.count_le hround).config]
    exact ⟨.round b t hadjacent ht hreads, hreset⟩

/-- The speeds of a turn are those of its round. -/
theorem ofSpeed_of_iteration {it : Iteration} {a : Action} (ha : ¬ a.OfReload)
    (h : ⟨.system, a⟩ ∈ (iteration format s it).events) :
    ∃ s₁, (reloadIfRequested it.reload s).result = .ok s₁ ∧ a.OfSpeed it.round s₁ := by
  obtain ⟨s₁, s₂, hs₁, hs₂, hsystem⟩ := system_event_of_iteration ha h
  obtain ⟨-, -, heq⟩ := run_monitorProcess_ok (nodup_processIndices _) hs₂
  rw [heq] at hsystem
  have hspeed := monitorSystem_speeds format it.round _ a hsystem
  exact ⟨s₁, hs₁, hspeed⟩

/-- **Speeds** are calculated from two samples that were read with the configuration in effect
now, by the sampling point right before and by this round, with no reload applied in between;
the time between is that of the clocks read right behind them. In the first round behind a reload
no speed is calculated, and what is printed are speeds of 0. -/
theorem networkSpeed_consecutive (format : OutputFormat) (calls : StartCalls)
    (its : List Iteration) (s₀ : MainState) (hs₀ : (start calls).result = .ok s₀) :
    ∀ c ∈ taken (iteration format) s₀ its,
      (∀ previous current elapsedSeconds,
        ⟨.system, .speedCalculated previous current elapsedSeconds⟩ ∈
          (iteration format c.1 c.2).events →
        ¬ AppliesReload c.1 c.2 ∧
          ∃ s time time', (reloadIfRequested c.2.reload c.1).result = .ok s ∧
            SampledBefore format calls s₀ its c s.config previous time ∧
            ReadsNetwork s.config c.2.round.procNetDev c.2.round.clock current time' ∧
            elapsedSeconds = calculateElapsedSeconds time time') ∧
      (AppliesReload c.1 c.2 → ∀ f snapshot download upload,
        ⟨.system, .printed f snapshot download upload⟩ ∈ (iteration format c.1 c.2).events →
        NetworkSample.mk ⟨snapshot.downloadBytesPerSecond, snapshot.uploadBytesPerSecond⟩ download
          upload = .zero) := by
  intro c hc
  obtain ⟨hsampled, hreset⟩ := sampledBefore_of_taken hs₀ hc
  constructor
  · intro previous current elapsedSeconds he
    obtain ⟨s, hs, hbaseline, rfl, time', hreads, rfl⟩ := ofSpeed_of_iteration id he
    obtain ⟨hnot, hsame⟩ | ⟨-, calls', s₂, rfl⟩ := reloadIfRequested_cases hs
    · rw [← hsame.config, ← hsame.previousNetwork, ← hsame.previousNetworkTime] at hsampled
      exact ⟨hnot, s, _, time', hs, hsampled, hreads, rfl⟩
    · -- behind a reload the sample is only a baseline
      cases hbaseline
  · intro happlies f snapshot download upload he
    obtain ⟨s, hs, hzero⟩ := ofSpeed_of_iteration id he
    obtain ⟨hnot, -⟩ | ⟨-, calls', s₂, rfl⟩ := reloadIfRequested_cases hs
    · exact absurd happlies hnot
    · exact hzero rfl

/-- A round of which 100 bytes were received so far at the time `seconds`. -/
def receivingRound (seconds : ℤ) : RoundCalls :=
  { quietRound (quietProc []) seconds with
    procNetDev := some (quietNetDev ++ ascii "eth0: 100 0 0 0 0 0 0 0 0 0 0 0 0 0 0 0\n") }

/-- A start with a target that is not there. -/
def receivingStart : StartCalls :=
  quietStart .zero (ascii "process_names=a\n") (quietProc [])

/-- Of two rounds, the second one calculates a speed from what the first one has read. -/
theorem networkSpeed_consecutive_twice :
    ∃ s₀ c, c ∈ taken (iteration .json) s₀ [⟨none, receivingRound 1⟩, ⟨none, receivingRound 3⟩] ∧
      ¬ AppliesReload c.1 c.2 ∧
      ∃ s time time', (reloadIfRequested c.2.reload c.1).result = .ok s ∧
        SampledBefore .json receivingStart s₀ [⟨none, receivingRound 1⟩, ⟨none, receivingRound 3⟩]
          c s.config ⟨100, 0⟩ time ∧
        ReadsNetwork s.config c.2.round.procNetDev c.2.round.clock ⟨100, 0⟩ time' ∧
        2 = calculateElapsedSeconds time time' := by
  have hok : ((start receivingStart).result.map fun s₀ =>
      (taken (iteration .json) s₀ [⟨none, receivingRound 1⟩, ⟨none, receivingRound 3⟩]).any fun c =>
        decide (⟨.system, .speedCalculated ⟨100, 0⟩ ⟨100, 0⟩ 2⟩ ∈
          (iteration .json c.1 c.2).events)) = .ok true := by decide +kernel
  obtain ⟨s₀, hs₀, hany⟩ := ok_of_map_ok hok
  obtain ⟨c, hc, he⟩ := List.any_eq_true.mp hany
  exact ⟨s₀, c, hc, (networkSpeed_consecutive .json receivingStart _ s₀ hs₀ c hc).1 _ _ _
    (of_decide_eq_true he)⟩

end EdgeSentinel.Monitor
