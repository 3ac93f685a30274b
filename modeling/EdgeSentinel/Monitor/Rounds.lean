import EdgeSentinel.Monitor.Record
import EdgeSentinel.Monitor.SetUp
import EdgeSentinel.Trace.Lockstep

/-!
# One round after the other

Much of what a round does depends on the round before: levels, samples and the availability
are compared with those of that round, unless a new configuration has been applied since.

## What is proved

* `reloadIfRequested_cases` — in front of a round, either a new configuration is applied, or
  everything that rounds compare with stays.
* `round_cases` — **in a run**, the record of a process at the beginning of a round is fresh,
  or it is the one that the round before has left behind.
* `shown_iteration` — what a turn of the loop does for a process is what
  `monitor_process_once` does with this record; `system_event_of_iteration` — what it does for
  the system is what the system part of the round does.
-/

namespace EdgeSentinel.Monitor

open CLib Config Trace Trace.Traced

variable {format : OutputFormat} {s s' s₀ s₁ : MainState} {its : List Iteration}
  {b c : MainState × Iteration} {i : ProcessIndex} {δ : Type}

/-! ### Reloads between rounds -/

/-- A turn of the loop applies a new configuration. -/
def AppliesReload (s : MainState) (it : Iteration) : Prop :=
  ∃ calls, it.reload = some calls ∧ (attemptReload calls s).1 = none

/-- What rounds compare with stays. -/
structure Unreloaded (s s' : MainState) : Prop where
  /-- The configuration. -/
  config : s'.config = s.config
  /-- The processes. -/
  processes : s'.processes = s.processes
  /-- Their number. -/
  processCount : s'.processCount = s.processCount
  /-- The previous network sample. -/
  previousNetwork : s'.previousNetwork = s.previousNetwork
  /-- Its time. -/
  previousNetworkTime : s'.previousNetworkTime = s.previousNetworkTime
  /-- Whether the next network sample is only a baseline. -/
  networkBaselineReset : s'.networkBaselineReset = s.networkBaselineReset

theorem Unreloaded.refl (s : MainState) : Unreloaded s s := ⟨rfl, rfl, rfl, rfl, rfl, rfl⟩

/-- **In front of a round**, a new configuration is applied, or what rounds compare with
stays: also where an attempt to reload fails. -/
theorem reloadIfRequested_cases {it : Iteration}
    (h : (reloadIfRequested it.reload s).result = .ok s₁) :
    (¬ AppliesReload s it ∧ Unreloaded s s₁) ∨
      (AppliesReload s it ∧ ∃ calls s₂, s₁ = appliedReload calls s₂) := by
  cases hreload : it.reload with
  | none =>
    rw [hreload] at h
    obtain rfl := Except.ok.inj h
    refine .inl ⟨?_, .refl s⟩
    rintro ⟨calls, hcalls, -⟩
    rw [hreload] at hcalls
    cases hcalls
  | some calls =>
    rw [hreload] at h
    have happlies : AppliesReload s it ↔ (attemptReload calls s).1 = none := by
      unfold AppliesReload
      simp [hreload]
    rw [happlies]
    obtain ⟨step, hstep, -⟩ | ⟨-, s₂, hstep, -, rfl⟩ := reload_ok h
    · rw [hstep]
      refine .inl ⟨by simp, ?_⟩
      obtain ⟨-, _, hcases⟩ | ⟨-, _, _, _, hcases, -⟩ := attemptReload_cases calls s
      · obtain ⟨-, rfl⟩ := Prod.mk.inj (hstep.symm.trans hcases)
        exact ⟨rfl, rfl, rfl, rfl, rfl, rfl⟩
      · obtain ⟨-, rfl⟩ := Prod.mk.inj (hstep.symm.trans hcases)
        exact ⟨rfl, rfl, rfl, rfl, rfl, rfl⟩
    · rw [hstep]
      exact .inr ⟨rfl, calls, s₂, rfl⟩

/-- A turn of a run, and the one right behind it, which applies no new configuration: the round
of the first is the one before that of the second. -/
structure PrecedingRound (format : OutputFormat) (s₀ : MainState) (its : List Iteration)
    (b c : MainState × Iteration) : Prop where
  /-- They are taken one after the other. -/
  adjacent : [b, c] <:+: taken (iteration format) s₀ its
  /-- No new configuration is applied in between. -/
  unreloaded : ¬ AppliesReload c.1 c.2

/-! ### Records between rounds -/

/-- A record of a process that was just set up. -/
def IsFresh (p : MonitoredProcess) : Prop :=
  ∃ targetName configuredPid currentPid, p = .fresh targetName configuredPid currentPid

theorem isFresh_of_setUp {config : AppConfig} {scans : ProcessIndex → ProcFs} {getpid : Int32}
    (hi : i.val < monitoredProcessCount config) :
    IsFresh ((setUp config scans getpid s).processes i) := by
  show IsFresh (if i.val < monitoredProcessCount config then _ else _)
  rw [if_pos hi]
  exact ⟨_, _, _, rfl⟩

/-- At the beginning, and right behind a reload that was applied, records are fresh. -/
theorem isFresh_of_start {calls : StartCalls} (h : (start calls).result = .ok s)
    (hi : i.val < s.processCount) : IsFresh (s.processes i) := by
  obtain ⟨_, _, _, rfl⟩ := start_ok h
  exact isFresh_of_setUp hi

theorem isFresh_of_appliedReload {calls : ReloadCalls}
    (hi : i.val < (appliedReload calls s).processCount) :
    IsFresh ((appliedReload calls s).processes i) :=
  isFresh_of_setUp hi

/-- `q` is what a round leaves behind of the record `p`: the PID of an unavailable process may be
forgotten. -/
def LeftBehind (p q : MonitoredProcess) : Prop :=
  q = p ∨ p.available = false ∧ q = { p with currentPid := 0 }

/-- What a round leaves behind of a process is from its call of `monitor_process_once`. -/
theorem round_leaves {calls : RoundCalls} (hs : Operating s)
    (h : (round format calls s).result = .ok s') (hi : i.val < s.processCount) :
    ∃ p, (monitorProcessOnce s.config (calls.processes i) (s.processes i)).result = .ok p ∧
      LeftBehind p (s'.processes i) := by
  obtain ⟨p, hp, heq⟩ := (round_ok hs.one_le hs.count_le h).monitored i hi
  refine ⟨p, hp, ?_⟩
  rw [heq]
  unfold forgetIf
  split_ifs with hclear
  · exact .inr ⟨eq_false_of_ne_true hclear.2, rfl⟩
  · exact .inl rfl

/-- The states of a run are operating. -/
theorem taken_operating (hs₀ : Operating s₀) (hc : c ∈ taken (iteration format) s₀ its) :
    Operating c.1 :=
  forall_taken (fun _ _ _ hs h => iteration_operating hs h) hs₀ its c hc

theorem PrecedingRound.mem_left (h : PrecedingRound format s₀ its b c) :
    b ∈ taken (iteration format) s₀ its :=
  h.adjacent.subset List.mem_cons_self

/-- The turn before has completed its round, and left behind what this one begins with. -/
theorem round_of_adjacent (h : [b, c] <:+: taken (iteration format) s₀ its) :
    ∃ t, (reloadIfRequested b.2.reload b.1).result = .ok t ∧
      (round format b.2.round t).result = .ok c.1 :=
  result_bind_ok.mp (result_of_adjacent h)

/-- The record of a process at the beginning of a round that has one before it. -/
theorem PrecedingRound.leaves (h : PrecedingRound format s₀ its b c) (hs₀ : Operating s₀)
    (hs : (reloadIfRequested c.2.reload c.1).result = .ok s) (hi : i.val < s.processCount) :
    ∃ t p, (reloadIfRequested b.2.reload b.1).result = .ok t ∧ i.val < t.processCount ∧
      (monitorProcessOnce t.config (b.2.round.processes i) (t.processes i)).result = .ok p ∧
      LeftBehind p (s.processes i) := by
  obtain ⟨-, hsame⟩ | ⟨happlies, -⟩ := reloadIfRequested_cases hs
  swap
  · exact absurd happlies h.unreloaded
  obtain ⟨t, ht, hround⟩ := round_of_adjacent h.adjacent
  have hop : Operating t := reloadIfRequested_operating (taken_operating hs₀ h.mem_left) ht
  rw [hsame.processCount, (round_ok hop.one_le hop.count_le hround).processCount] at hi
  rw [hsame.processes]
  obtain ⟨p, hp, hleft⟩ := round_leaves hop hround hi
  exact ⟨t, p, ht, hi, hp, hleft⟩

/-- **The record of a process** at the beginning of a round of a run: it is fresh, or the round
before has left it behind. -/
theorem round_cases {calls : StartCalls} (hs₀ : (start calls).result = .ok s₀)
    (hc : c ∈ taken (iteration format) s₀ its)
    (hs : (reloadIfRequested c.2.reload c.1).result = .ok s) (hi : i.val < s.processCount) :
    IsFresh (s.processes i) ∨ ∃ b, PrecedingRound format s₀ its b c ∧ ∃ t p,
      (reloadIfRequested b.2.reload b.1).result = .ok t ∧ i.val < t.processCount ∧
      (monitorProcessOnce t.config (b.2.round.processes i) (t.processes i)).result = .ok p ∧
      LeftBehind p (s.processes i) := by
  obtain ⟨hnot, hsame⟩ | ⟨-, calls', s₂, rfl⟩ := reloadIfRequested_cases hs
  swap
  · exact .inl (isFresh_of_appliedReload hi)
  obtain ⟨-, hfirst⟩ | ⟨b, hadjacent⟩ := adjacent_of_mem_taken hc
  · rw [hsame.processCount, hfirst] at hi
    rw [hsame.processes, hfirst]
    exact .inl (isFresh_of_start hs₀ hi)
  · have hbefore : PrecedingRound format s₀ its b c := ⟨hadjacent, hnot⟩
    exact .inr ⟨b, hbefore, hbefore.leaves (start_operating hs₀) hs hi⟩

/-! ### Events of a turn -/

/-- The actions of a reload. -/
def Action.OfReload : Action → Prop
  | .reloaded | .reloadFailed _ | .networkSampled _ _ _ => True
  | _ => False

/-- A reload acts for no process, and it measures nothing. -/
theorem reload_emits (calls : ReloadCalls) (s : MainState) :
    (reload calls s).Emits fun e => e.source = .system ∧ e.action.OfReload := by
  unfold reload
  split
  · exact .emit_bind ⟨rfl, trivial⟩ .pure
  · exact .emit_bind ⟨rfl, trivial⟩ (.bind (setUpProcesses_emits _ _ _ _ _) fun _ _ =>
      .emit_bind ⟨rfl, trivial⟩ .pure)

theorem reloadIfRequested_emits (calls : Option ReloadCalls) (s : MainState) :
    (reloadIfRequested calls s).Emits fun e => e.source = .system ∧ e.action.OfReload := by
  cases calls with
  | none => exact .pure
  | some calls => exact reload_emits calls s

/-- What a view of actions shows of those for process `i`. -/
def ofProcess (i : ProcessIndex) (view : Action → Option δ) (e : Event) : Option δ :=
  if e.source = .process i then view e.action else none

/-- What a turn of the loop over the processes shows of process `i`. -/
theorem shown_monitorProcess (view : Action → Option δ) (calls : RoundCalls) (s : MainState)
    (i j : ProcessIndex) :
    (monitorProcess calls s j).shown (ofProcess i view) =
      if j = i then (monitorProcessOnce s.config (calls.processes i) (s.processes i)).shown
        view else [] := by
  rw [monitorProcess, shown_bind_of_hidden fun _ => .pure, shown, events_rename,
    List.filterMap_map]
  split_ifs with hji
  · subst hji
    refine List.filterMap_congr fun a _ => ?_
    simp [ofProcess]
  · refine List.filterMap_eq_nil_iff.mpr fun a _ => ?_
    simp [ofProcess, hji]

/-- What the loop over the processes shows of process `i`: its own call, if the loop gets to
it. -/
theorem shown_monitorProcesses {view : Action → Option δ} {calls : RoundCalls}
    {is : List ProcessIndex} (hnd : is.Nodup) (i : ProcessIndex) :
    (run (monitorProcess calls) s is).shown (ofProcess i view) =
      if i ∈ (taken (monitorProcess calls) s is).map Prod.snd
      then (monitorProcessOnce s.config (calls.processes i) (s.processes i)).shown view
      else [] := by
  induction is generalizing s with
  | nil => rfl
  | cons j is ih =>
    obtain ⟨hj, hnd⟩ := List.nodup_cons.mp hnd
    rw [shown_run_cons, shown_monitorProcess, taken, List.map_cons]
    rcases hs₁ : (monitorProcess calls s j).result with r | s₁
    · simp [eq_comm]
    · have hother : s₁.config = s.config ∧ (i ≠ j → s₁.processes i = s.processes i) := by
        obtain ⟨p, -, hs₁⟩ := result_bind_ok.mp hs₁
        obtain rfl := Except.ok.inj hs₁
        exact ⟨rfl, fun hij => Function.update_of_ne hij p s.processes⟩
      dsimp only
      rw [ih hnd, hother.1]
      by_cases hji : j = i
      · subst hji
        have hnot : j ∉ (taken (monitorProcess calls) s₁ is).map Prod.snd := fun hm =>
          hj ((isPrefix_map_snd_taken _ _ _).subset hm)
        rw [if_pos rfl, if_neg hnot, if_pos List.mem_cons_self, List.append_nil]
      · rw [if_neg hji, List.nil_append, hother.2 (Ne.symm hji)]
        simp only [List.mem_cons, Ne.symm hji, false_or]

/-- What a round shows of process `i` is what its loop over the processes shows. -/
theorem shown_round (view : Action → Option δ) (calls : RoundCalls) (s : MainState)
    (i : ProcessIndex) :
    (round format calls s).shown (ofProcess i view) =
      (monitorProcesses calls s).shown (ofProcess i view) := by
  refine shown_bind_of_hidden (fun s₁ => ?_) _
  refine .bind (fun e he => ?_) fun _ _ => .pure
  obtain ⟨a, -, rfl⟩ := List.mem_map.mp he
  exact if_neg (by simp)

/-- What a turn of the loop shows of process `i`: its own call, if the loop over the processes
gets to it. -/
theorem shown_iteration {view : Action → Option δ} {it : Iteration}
    (hs₁ : (reloadIfRequested it.reload s).result = .ok s₁) (i : ProcessIndex) :
    (iteration format s it).shown (ofProcess i view) =
      if i ∈ (taken (monitorProcess it.round) s₁ (processIndices s₁.processCount)).map Prod.snd
      then (monitorProcessOnce s₁.config (it.round.processes i) (s₁.processes i)).shown view
      else [] := by
  have hreload : (reloadIfRequested it.reload s).shown (ofProcess i view) = [] := by
    refine shown_of_hidden fun e he => if_neg ?_
    rw [(reloadIfRequested_emits _ _ e he).1]
    simp
  rw [iteration, shown_bind_of_ok hs₁, hreload, List.nil_append, shown_round, monitorProcesses,
    shown_monitorProcesses (nodup_processIndices _)]

theorem mem_shown_ofProcess {view : Action → Option δ} {x : Traced Event Exit MainState} {v : δ} :
    v ∈ x.shown (ofProcess i view) ↔ ∃ a, ⟨.process i, a⟩ ∈ x.events ∧ view a = some v := by
  constructor
  · intro h
    obtain ⟨⟨source, a⟩, he, hview⟩ := List.mem_filterMap.mp h
    unfold ofProcess at hview
    split_ifs at hview with hsource
    cases hsource
    exact ⟨a, he, hview⟩
  · rintro ⟨a, he, hview⟩
    exact List.mem_filterMap.mpr ⟨_, he, (if_pos rfl).trans hview⟩

/-- **What a turn of the loop does for a process** is what `monitor_process_once` does, with the
record at the beginning of the round. -/
theorem process_event_of_iteration {it : Iteration} {a : Action}
    (h : ⟨.process i, a⟩ ∈ (iteration format s it).events) :
    ∃ s₁, (reloadIfRequested it.reload s).result = .ok s₁ ∧ i.val < s₁.processCount ∧
      i ∈ (taken (monitorProcess it.round) s₁ (processIndices s₁.processCount)).map Prod.snd ∧
      a ∈ (monitorProcessOnce s₁.config (it.round.processes i) (s₁.processes i)).events := by
  rcases mem_events_bind.mp h with hreload | ⟨s₁, hs₁, -⟩
  · cases (reloadIfRequested_emits _ _ _ hreload).1
  · have hshown : a ∈ (iteration format s it).shown (ofProcess i some) :=
      mem_shown_ofProcess.mpr ⟨a, h, rfl⟩
    rw [shown_iteration hs₁] at hshown
    split_ifs at hshown with hreached
    · have hi := mem_processIndices.mp ((isPrefix_map_snd_taken _ _ _).subset hreached)
      simp only [shown, List.filterMap_some] at hshown
      exact ⟨s₁, hs₁, hi, hreached, hshown⟩
    · cases hshown

/-- In a turn of the loop, the call of `monitor_process_once` for process `i` begins with the
record of this state, and returns 0 with this record. -/
structure Monitors (format : OutputFormat) (c : MainState × Iteration) (i : ProcessIndex)
    (s : MainState) (p' : MonitoredProcess) : Prop where
  /-- The state is the one behind the reload. -/
  reload : (reloadIfRequested c.2.reload c.1).result = .ok s
  /-- The call returns 0. -/
  returns : ⟨.process i, .monitored p'⟩ ∈ (iteration format c.1 c.2).events

theorem Monitors.result {p' : MonitoredProcess} (h : Monitors format c i s p') :
    i.val < s.processCount ∧
      (monitorProcessOnce s.config (c.2.round.processes i) (s.processes i)).result = .ok p' := by
  obtain ⟨s₁, hs₁, hi, -, hmonitored⟩ := process_event_of_iteration h.returns
  obtain rfl := Except.ok.inj (hs₁.symm.trans h.reload)
  exact ⟨hi, result_of_monitored hmonitored⟩

/-- What a turn shows of the process is what this call shows. -/
theorem Monitors.shown {p' : MonitoredProcess} (h : Monitors format c i s p')
    (view : Action → Option δ) : (iteration format c.1 c.2).shown (ofProcess i view) =
      (monitorProcessOnce s.config (c.2.round.processes i) (s.processes i)).shown view := by
  obtain ⟨s₁, hs₁, -, hreached, -⟩ := process_event_of_iteration h.returns
  obtain rfl := Except.ok.inj (hs₁.symm.trans h.reload)
  rw [shown_iteration hs₁, if_pos hreached]

theorem Monitors.mem_events {p' : MonitoredProcess} (h : Monitors format c i s p') {a : Action} :
    ⟨.process i, a⟩ ∈ (iteration format c.1 c.2).events ↔
      a ∈ (monitorProcessOnce s.config (c.2.round.processes i) (s.processes i)).events := by
  have hmem : a ∈ (iteration format c.1 c.2).shown (ofProcess i some) ↔ _ := mem_shown_ofProcess
  rw [h.shown, Traced.shown, List.filterMap_some] at hmem
  rw [hmem]
  simp

/-- What a turn of the loop does for the system is its reload, or what the system part of the
round does. -/
theorem system_event_of_iteration {it : Iteration} {a : Action} (ha : ¬ a.OfReload)
    (h : ⟨.system, a⟩ ∈ (iteration format s it).events) :
    ∃ s₁ s₂, (reloadIfRequested it.reload s).result = .ok s₁ ∧
      (monitorProcesses it.round s₁).result = .ok s₂ ∧
      a ∈ (monitorSystem format it.round s₂).events := by
  rcases mem_events_bind.mp h with hreload | ⟨s₁, hs₁, hround⟩
  · exact absurd (reloadIfRequested_emits _ _ _ hreload).2 ha
  rcases mem_events_bind.mp hround with hloop | ⟨s₂, hs₂, hsystem⟩
  · obtain ⟨c, -, hloop⟩ := mem_events_run.mp hloop
    cases monitorProcess_emits _ _ _ _ hloop
  · rw [events_bind_pure, events_rename] at hsystem
    obtain ⟨a', ha', he⟩ := List.mem_map.mp hsystem
    obtain rfl := (Event.mk.inj he).2
    exact ⟨s₁, s₂, hs₁, hs₂, ha'⟩

end EdgeSentinel.Monitor
