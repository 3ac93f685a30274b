import EdgeSentinel.Monitor.ConfigInEffect
import EdgeSentinel.Monitor.Signals

/-!
# Interleavings

A run of the `Machine` of `Signals` is a list of statements with signals between them. This
module says what such a run does, and that turns of the loop, as `iteration` has them, do the
same.

## The model

The `Account` of some steps has the events, in order, and what the operating system answered
to the calls of `config_load` and to the rounds.

## What is proved

* `interleaving_refines` — whatever signals arrive between whichever statements, the variables
  and the account are those of turns of the loop: one reload for each call of `config_load`,
  one round for each round, with the same answers and in the same order. Behind the loop there
  are only whole turns, and a machine that has stopped has done what a run of turns that stops
  does.
* `signals_prompt` — signals are heeded in time: a stop signal within seven statements, a
  SIGHUP within nine; and without a stop signal, the loop is left only by a turn that stops.
* `config_inEffect_interleaved` — so the configuration in effect is that of the file that
  `config_load` has found last among those that could be applied, whenever it was called.
-/

namespace EdgeSentinel.Monitor

open CLib Config Trace Trace.Traced

/-! ### What some steps do -/

/-- What some steps of the machine do. -/
@[ext]
structure Account where
  /-- The events. -/
  events : List Event
  /-- What the calls of `config_load`, and what is behind them, are answered. -/
  reloads : List ReloadCalls
  /-- What the rounds are answered. -/
  rounds : List RoundCalls

/-- Nothing. -/
def Account.nothing : Account := ⟨[], [], []⟩

/-- One account, and then another. -/
def Account.andThen (a b : Account) : Account :=
  ⟨a.events ++ b.events, a.reloads ++ b.reloads, a.rounds ++ b.rounds⟩

@[simp] theorem Account.nothing_andThen (a : Account) : nothing.andThen a = a := rfl

@[simp] theorem Account.andThen_nothing (a : Account) : a.andThen nothing = a := by
  simp [andThen, nothing]

theorem Account.andThen_assoc (a b c : Account) :
    (a.andThen b).andThen c = a.andThen (b.andThen c) := by
  simp [andThen]

variable (format : OutputFormat)

/-- What a step does. -/
def Machine.done (m : Machine) : Step → Account
  | .deliver _ => .nothing
  | .execute answers =>
    match m.point with
    | .load => ⟨[], [answers.reload], []⟩
    | .reloading calls loaded => ⟨(reloadLoaded calls loaded m.state).events, [], []⟩
    | .round => ⟨(round format answers.round m.state).events, [], [answers.round]⟩
    | _ => .nothing

/-- What some steps do. -/
def Machine.account (m : Machine) : List Step → Account
  | [] => .nothing
  | step :: steps => (m.done format step).andThen ((m.step format step).account steps)

/-! ### What some turns do -/

/-- Some turns of the loop lead to a state, and do what the account says. -/
structure Turns (s₀ : MainState) (its : List Iteration) (s : MainState) (a : Account) : Prop where
  /-- The events and the state. -/
  run : Traced.run (iteration format) s₀ its = ⟨a.events, .ok s⟩
  /-- The calls of `config_load`. -/
  reloads : its.filterMap Iteration.reload = a.reloads
  /-- The rounds. -/
  rounds : its.map Iteration.round = a.rounds

/-- Some turns of the loop stop, and have done what the account says. A turn whose reload stops
has no round. -/
structure TurnsStop (s₀ : MainState) (its : List Iteration) (r : Exit) (a : Account) : Prop where
  /-- The events, and why it stops. -/
  run : Traced.run (iteration format) s₀ its = ⟨a.events, .error r⟩
  /-- The calls of `config_load`. -/
  reloads : its.filterMap Iteration.reload = a.reloads
  /-- The rounds. -/
  rounds : a.rounds <+: its.map Iteration.round

/-- The machine is where turns of the loop lead, and has done what they do. Within a turn, the
part of it that is behind the machine is added. -/
def Accounts (s₀ : MainState) (m : Machine) (a : Account) : Prop :=
  match m.point with
  | .load => ∃ its s, Turns format s₀ its s a ∧
      m.state = { s with reloadedConfig := configSetDefaults s.reloadedConfig }
  | .reloading calls loaded => ∃ its s before, Turns format s₀ its s before ∧
      a = before.andThen ⟨[], [calls], []⟩ ∧
      ∃ config, Config.configLoad calls.configFile (configSetDefaults s.reloadedConfig) =
          (loaded, config) ∧ m.state = { s with reloadedConfig := config }
  | .round => ∃ its s before calls events, Turns format s₀ its s before ∧
      a = before.andThen ⟨events, calls.toList, []⟩ ∧
      reloadIfRequested calls s = ⟨events, .ok m.state⟩
  | .stopped r => ∃ its, TurnsStop format s₀ its r a
  | _ => ∃ its, Turns format s₀ its m.state a

variable {format : OutputFormat} {s₀ s s₁ s' : MainState} {its : List Iteration} {m : Machine}
  {a before : Account} {calls : Option ReloadCalls} {events events' : List Event} {r : Exit}

/-! ### One more turn -/

/-- The calls of `config_load` of some turns and one more. -/
theorem reloads_concat (h : its.filterMap Iteration.reload = before.reloads)
    (calls : Option ReloadCalls) (answers : RoundCalls) :
    (its ++ [Iteration.mk calls answers]).filterMap Iteration.reload =
      before.reloads ++ calls.toList := by
  rw [List.filterMap_append, h]
  cases calls <;> rfl

/-- A run with one more turn, taken apart at its reload. -/
theorem run_concat_turn (h : Turns format s₀ its s before)
    (hreload : reloadIfRequested calls s = ⟨events, .ok s₁⟩) (answers : RoundCalls) :
    Traced.run (iteration format) s₀ (its ++ [⟨calls, answers⟩]) =
      ⟨before.events ++ events ++ (round format answers s₁).events,
        (round format answers s₁).result⟩ := by
  have hturn : iteration format s ⟨calls, answers⟩ =
      ⟨events ++ (round format answers s₁).events, (round format answers s₁).result⟩ := by
    rw [iteration, hreload, bind_of_ok rfl]
  rw [run_concat, h.run, bind_of_ok rfl, hturn, List.append_assoc]

/-- A turn that returns is one turn more. -/
theorem Turns.turn (h : Turns format s₀ its s before)
    (hreload : reloadIfRequested calls s = ⟨events, .ok s₁⟩) {answers : RoundCalls}
    (hround : round format answers s₁ = ⟨events', .ok s'⟩) :
    Turns format s₀ (its ++ [⟨calls, answers⟩]) s'
      ((before.andThen ⟨events, calls.toList, []⟩).andThen ⟨events', [], [answers]⟩) where
  run := by rw [run_concat_turn h hreload, hround]; rfl
  reloads := (reloads_concat h.reloads calls answers).trans (List.append_nil _).symm
  rounds := by simp [Account.andThen, h.rounds]

/-- A turn whose round stops. -/
theorem Turns.stop_round (h : Turns format s₀ its s before)
    (hreload : reloadIfRequested calls s = ⟨events, .ok s₁⟩) {answers : RoundCalls}
    (hround : round format answers s₁ = ⟨events', .error r⟩) :
    TurnsStop format s₀ (its ++ [⟨calls, answers⟩]) r
      ((before.andThen ⟨events, calls.toList, []⟩).andThen ⟨events', [], [answers]⟩) where
  run := by rw [run_concat_turn h hreload, hround]; rfl
  reloads := (reloads_concat h.reloads calls answers).trans (List.append_nil _).symm
  rounds := by simp [Account.andThen, h.rounds]

/-- A turn whose reload stops, whatever its round would have been answered. -/
theorem Turns.stop_reload (h : Turns format s₀ its s before)
    (hreload : reloadIfRequested calls s = ⟨events, .error r⟩) (answers : RoundCalls) :
    TurnsStop format s₀ (its ++ [⟨calls, answers⟩]) r
      (before.andThen ⟨events, calls.toList, []⟩) where
  run := by
    have hturn : iteration format s ⟨calls, answers⟩ = ⟨events, .error r⟩ := by
      rw [iteration, hreload, bind_of_error rfl]
    rw [run_concat, h.run, bind_of_ok rfl, hturn]
    rfl
  reloads := reloads_concat h.reloads calls answers
  rounds := by simp [Account.andThen, h.rounds]

/-! ### The machine -/

/-- **A step** keeps the account of the turns of the loop. -/
theorem accounts_step (h : Accounts format s₀ m a) (step : Step) :
    Accounts format s₀ (m.step format step) (a.andThen (m.done format step)) := by
  obtain ⟨point, keepRunning, reloadRequested, state⟩ := m
  cases step with
  | deliver signal =>
    show Accounts format s₀ (handle signal _) (a.andThen .nothing)
    rw [Account.andThen_nothing]
    cases signal <;> exact h
  | execute answers =>
    cases point with
    | load =>
      obtain ⟨its, s, hturns, hstate⟩ := h
      obtain rfl := hstate
      exact ⟨its, s, a, hturns, rfl, _, rfl, rfl⟩
    | reloading calls loaded =>
      obtain ⟨its, s, before, hturns, rfl, config, hload, hstate⟩ := h
      obtain rfl := hstate
      have hreload : reloadIfRequested (some calls) s = _ := reload_eq_reloadLoaded calls s
      rw [hload] at hreload
      show Accounts format s₀ (Machine.behind _
        (reloadLoaded calls loaded { s with reloadedConfig := config }) .round)
        ((before.andThen ⟨[], [calls], []⟩).andThen
          ⟨(reloadLoaded calls loaded { s with reloadedConfig := config }).events, [], []⟩)
      rw [Account.andThen_assoc]
      generalize reloadLoaded calls loaded { s with reloadedConfig := config } = reloaded at hreload
      obtain ⟨events, result⟩ := reloaded
      cases result with
      | ok s₁ => exact ⟨its, s, before, some calls, events, hturns, rfl, hreload⟩
      | error r => exact ⟨_, hturns.stop_reload hreload answers.round⟩
    | round =>
      obtain ⟨its, s, before, calls, events, hturns, rfl, hreload⟩ := h
      show Accounts format s₀
        (Machine.behind _ (Monitor.round format answers.round state) .loopTest)
        ((before.andThen ⟨events, calls.toList, []⟩).andThen
          ⟨(Monitor.round format answers.round state).events, [], [answers.round]⟩)
      generalize hround : Monitor.round format answers.round state = round
      obtain ⟨events', result⟩ := round
      cases result with
      | ok s' => exact ⟨_, hturns.turn hreload hround⟩
      | error r => exact ⟨_, hturns.stop_round hreload hround⟩
    | loopTest =>
      rw [Machine.done, Account.andThen_nothing]
      cases keepRunning <;> exact h
    | stopTest =>
      rw [Machine.done, Account.andThen_nothing]
      cases keepRunning <;> exact h
    | reloadTest =>
      obtain ⟨its, hturns⟩ := h
      cases reloadRequested with
      | false => exact ⟨its, state, a, none, [], hturns, rfl, rfl⟩
      | true =>
        rw [Machine.done, Account.andThen_nothing]
        exact ⟨its, hturns⟩
    | setDefaults =>
      obtain ⟨its, hturns⟩ := h
      rw [Machine.done, Account.andThen_nothing]
      exact ⟨its, state, hturns, rfl⟩
    | _ =>
      rw [Machine.done, Account.andThen_nothing]
      exact h

/-- A run keeps the account. -/
theorem accounts_run (h : Accounts format s₀ m a) (steps : List Step) :
    Accounts format s₀ (m.run format steps) (a.andThen (m.account format steps)) := by
  induction steps generalizing m a with
  | nil =>
    rw [Machine.account, Account.andThen_nothing]
    exact h
  | cons step steps ih =>
    rw [Machine.account, ← Account.andThen_assoc]
    exact ih (accounts_step h step)

/-- In front of the loop, nothing is done. -/
theorem accounts_start (format : OutputFormat) (s₀ : MainState)
    (keepRunning reloadRequested : Bool) :
    Accounts format s₀ ⟨.loopTest, keepRunning, reloadRequested, s₀⟩ .nothing :=
  ⟨[], rfl, rfl, rfl⟩

/-- **Interleavings**: whatever signals arrive between whichever statements of the loop, the
machine goes through turns of the loop, and does what they do. -/
theorem interleaving_refines (format : OutputFormat) (s₀ : MainState)
    (keepRunning reloadRequested : Bool) (steps : List Step) :
    Accounts format s₀
      (Machine.run format ⟨.loopTest, keepRunning, reloadRequested, s₀⟩ steps)
      (Machine.account format ⟨.loopTest, keepRunning, reloadRequested, s₀⟩ steps) :=
  accounts_run (accounts_start format s₀ keepRunning reloadRequested) steps

/-! ### How soon signals are heeded -/

/-- The loop is left, or `main` has returned 1. -/
def Point.IsOver : Point → Prop
  | .left | .stopped _ => True
  | _ => False

/-- How many statements there are at most until the loop is over, if it is to stop. -/
def Point.untilOver : Point → ℕ
  | .reloadTest => 7
  | .clear => 6
  | .setDefaults => 5
  | .load => 4
  | .reloading _ _ => 3
  | .round => 2
  | .loopTest => 1
  | .sleep => 2
  | .stopTest => 1
  | .left | .stopped _ => 0

/-- How many there are at most until `config_load` is called, if a request is pending. -/
def Point.untilLoad : Point → ℕ
  | .reloading _ _ => 9
  | .round => 8
  | .loopTest => 7
  | .sleep => 6
  | .stopTest => 5
  | .reloadTest => 4
  | .clear => 3
  | .setDefaults => 2
  | .load => 1
  | .left | .stopped _ => 0

theorem Point.untilOver_le (point : Point) : point.untilOver ≤ 7 := by
  cases point <;> simp [untilOver]

theorem Point.untilLoad_le (point : Point) : point.untilLoad ≤ 9 := by
  cases point <;> simp [untilLoad]

theorem Point.isOver_of_untilOver {point : Point} (h : point.untilOver = 0) : point.IsOver := by
  cases point <;> first | exact trivial | simp [untilOver] at h

theorem Point.isOver_of_untilLoad {point : Point} (h : point.untilLoad = 0) : point.IsOver := by
  cases point <;> first | exact trivial | simp [untilLoad] at h

theorem until_behind (x : Traced Event Exit MainState) (next : Point) :
    (m.behind x next).point.untilOver ≤ next.untilOver ∧
      (m.behind x next).point.untilLoad ≤ next.untilLoad := by
  unfold Machine.behind
  split
  · exact ⟨Nat.le_refl _, Nat.le_refl _⟩
  · exact ⟨Nat.zero_le _, Nat.zero_le _⟩

variable (format) in
/-- **A statement** of a machine that is to stop brings the end of the loop nearer. -/
theorem untilOver_execute (h : m.keepRunning = false) (answers : StatementCalls) :
    (m.execute format answers).point.untilOver ≤ m.point.untilOver - 1 := by
  obtain ⟨point, keepRunning, reloadRequested, state⟩ := m
  obtain rfl : keepRunning = false := h
  cases point with
  | reloadTest => cases reloadRequested <;> simp [Machine.execute, Point.untilOver]
  | reloading calls loaded => exact (until_behind _ .round).1
  | round => exact (until_behind _ .loopTest).1
  | _ => simp [Machine.execute, Point.untilOver]

variable (format) in
/-- So does every run of them. -/
theorem untilOver_run (h : m.keepRunning = false) (steps : List Step) :
    (m.run format steps).point.untilOver ≤ m.point.untilOver - steps.countP Step.isExecute := by
  induction steps generalizing m with
  | nil => exact Nat.le_refl _
  | cons step steps ih =>
    have hrest := ih (keepRunning_step format step h)
    rw [Machine.run, List.foldl_cons]
    refine hrest.trans ?_
    cases step with
    | deliver signal =>
      rw [List.countP_cons_of_neg (by simp [Step.isExecute])]
      show (handle signal m).point.untilOver - _ ≤ _
      rw [point_handle]
    | execute answers =>
      have hstep := untilOver_execute format h answers
      rw [List.countP_cons_of_pos rfl]
      show (m.execute format answers).point.untilOver - _ ≤ _
      omega

variable (format) in
/-- **A statement** of a machine with a pending request calls `config_load`, or brings its call
nearer. -/
theorem untilLoad_execute (h : m.Pending) (answers : StatementCalls) :
    .configLoad ∈ m.executed ∨
      (m.execute format answers).point.untilLoad ≤ m.point.untilLoad - 1 := by
  obtain ⟨point, keepRunning, reloadRequested, state⟩ := m
  cases point with
  | load => exact .inl (List.mem_singleton_self _)
  | loopTest => cases keepRunning <;> simp [Machine.execute, Point.untilLoad]
  | stopTest => cases keepRunning <;> simp [Machine.execute, Point.untilLoad]
  | reloadTest =>
    have hflag : reloadRequested = true := by simpa [Machine.Pending, Machine.AboutToLoad] using h
    simp [Machine.execute, Point.untilLoad, hflag]
  | reloading calls loaded => exact .inr (until_behind _ .round).2
  | round => exact .inr (until_behind _ .loopTest).2
  | _ => simp [Machine.execute, Point.untilLoad]

/-- Where a request is pending, `config_load` is called in the end, unless the loop is over. -/
theorem untilLoad_run (h : m.Pending) (steps : List Step) :
    .configLoad ∈ m.trace format steps ∨
      (m.run format steps).point.untilLoad ≤
        m.point.untilLoad - steps.countP Step.isExecute := by
  induction steps generalizing m with
  | nil => exact .inr (Nat.le_refl _)
  | cons step steps ih =>
    rw [Machine.trace, List.mem_append, Machine.run, List.foldl_cons]
    have hstep : (m.step format step).Pending ∨ .configLoad ∈ m.actions step := pending_step h step
    rcases hstep with hnext | hload
    · rcases ih hnext with hload | hrest
      · exact .inl (.inr hload)
      · cases step with
        | deliver signal =>
          right
          rw [List.countP_cons_of_neg (by simp [Step.isExecute])]
          refine hrest.trans ?_
          show (handle signal m).point.untilLoad - _ ≤ _
          rw [point_handle]
        | execute answers =>
          rcases untilLoad_execute format h answers with hload | hnearer
          · exact .inl (.inl hload)
          · right
            rw [List.countP_cons_of_pos rfl]
            refine hrest.trans ?_
            show (m.execute format answers).point.untilLoad - _ ≤ _
            omega
    · exact .inl (.inl hload)

/-- SIGINT or SIGTERM is delivered. -/
def Step.IsStop : Step → Prop
  | .deliver .sigint | .deliver .sigterm => True
  | _ => False

/-- The loop goes on, or a turn has stopped. -/
def Machine.GoesOn (m : Machine) : Prop := m.keepRunning = true ∧ m.point ≠ .left

theorem goesOn_behind (h : m.keepRunning = true) (x : Traced Event Exit MainState) {next : Point}
    (hnext : next ≠ .left) : (m.behind x next).GoesOn := by
  refine ⟨(keepRunning_behind x next).trans h, ?_⟩
  unfold Machine.behind
  split
  · exact hnext
  · simp

/-- Without a stop signal, the loop is not left. -/
theorem goesOn_step (h : m.GoesOn) {step : Step} (hstep : ¬ step.IsStop) :
    (m.step format step).GoesOn := by
  obtain ⟨point, keepRunning, reloadRequested, state⟩ := m
  obtain ⟨hkeep, hpoint⟩ := h
  obtain rfl : keepRunning = true := hkeep
  cases step with
  | deliver signal =>
    cases signal with
    | sighup => exact ⟨rfl, hpoint⟩
    | sigint => exact absurd trivial hstep
    | sigterm => exact absurd trivial hstep
  | execute answers =>
    cases point with
    | reloadTest => cases reloadRequested <;> exact ⟨rfl, by simp [Machine.step, Machine.execute]⟩
    | reloading calls loaded => exact goesOn_behind rfl _ (by simp)
    | round => exact goesOn_behind rfl _ (by simp)
    | left => exact absurd rfl hpoint
    | _ => exact ⟨rfl, by simp [Machine.step, Machine.execute]⟩

theorem goesOn_run (h : m.GoesOn) {steps : List Step} (hsteps : ∀ step ∈ steps, ¬ step.IsStop) :
    (m.run format steps).GoesOn :=
  List.foldlRecOn steps _ h fun _ hm step hstep => goesOn_step hm (hsteps step hstep)

/-- **Signals are heeded in time**, whatever other signals arrive. Behind a stop signal, the loop
is over once seven statements are executed, where a round is one statement, and so is a reload
behind `config_load`. Behind a SIGHUP, once nine are, `config_load` has been called, or the loop
is over. And a loop that goes on is not left while no stop signal
arrives: `main` returns 0 only where it was told to stop. -/
theorem signals_prompt (format : OutputFormat) (m : Machine) (steps : List Step) :
    (7 ≤ steps.countP Step.isExecute → ((handle .sigint m).run format steps).point.IsOver ∧
      ((handle .sigterm m).run format steps).point.IsOver) ∧
    (9 ≤ steps.countP Step.isExecute →
      .configLoad ∈ (handle .sighup m).trace format steps ∨
        ((handle .sighup m).run format steps).point.IsOver) ∧
    (m.GoesOn → (m.run format steps).point = .left → ∃ step ∈ steps, step.IsStop) := by
  refine ⟨fun hseven => ?_, fun hnine => ?_, fun hgoes hleft => ?_⟩
  · have hstop : ∀ signal, (handle signal m).keepRunning = false →
        ((handle signal m).run format steps).point.IsOver := by
      intro signal h
      have hrun := untilOver_run format h steps
      have hfirst := (handle signal m).point.untilOver_le
      apply Point.isOver_of_untilOver
      omega
    exact ⟨hstop .sigint rfl, hstop .sigterm rfl⟩
  · refine (untilLoad_run (m := handle .sighup m) (.inl rfl) steps).imp id fun hrun => ?_
    have hfirst := (handle .sighup m).point.untilLoad_le
    apply Point.isOver_of_untilLoad
    omega
  · by_contra hnone
    push Not at hnone
    exact (goesOn_run hgoes hnone).2 hleft

/-! ### The configuration in effect -/

/-- The file in effect behind some calls of `config_load`, with what is behind them. -/
def lastApplied (file : Option ConfigFile) (reloads : List ReloadCalls) : Option ConfigFile :=
  reloads.foldl (fun file calls => (appliedFile? calls).or file) file

/-- Only the turns with a reload matter. -/
theorem fileInEffect_eq_lastApplied (calls : StartCalls) (its : List Iteration) :
    fileInEffect calls its = lastApplied (startFile calls) (its.filterMap Iteration.reload) := by
  unfold fileInEffect lastApplied
  generalize startFile calls = file
  induction its generalizing file with
  | nil => rfl
  | cons it its ih =>
    rw [List.foldl_cons, ih]
    unfold fileAfter
    cases hreload : it.reload with
    | none =>
      rw [List.filterMap_cons_none hreload]
      rfl
    | some reload =>
      rw [List.filterMap_cons_some hreload, List.foldl_cons]
      rfl

/-- What is in effect behind some turns. -/
theorem Turns.inEffect {calls : StartCalls} (hs₀ : (start calls).result = .ok s₀)
    (h : Turns format s₀ its s a) :
    InEffect (lastApplied (startFile calls) a.reloads) s.config := by
  have hresult : (Traced.run (iteration format) s₀ its).result = .ok s := by rw [h.run]
  rw [← h.reloads, ← fileInEffect_eq_lastApplied]
  exact inEffect_of_run hs₀ hresult

/-- The record in effect has the settings of the file that was applied last. The one that is being
applied does not count before it is. -/
def ConfigFollows (file : Option ConfigFile) (m : Machine) (a : Account) : Prop :=
  match m.point with
  | .stopped _ => True
  | .reloading _ _ =>
    ∀ k, setting m.state.config k = settingFrom (lastApplied file a.reloads.dropLast) k
  | _ => ∀ k, setting m.state.config k = settingFrom (lastApplied file a.reloads) k

/-- It has, wherever the account is kept. -/
theorem configFollows_of_accounts {calls : StartCalls} (hs₀ : (start calls).result = .ok s₀)
    (h : Accounts format s₀ m a) : ConfigFollows (startFile calls) m a := by
  obtain ⟨point, keepRunning, reloadRequested, state⟩ := m
  cases point with
  | stopped r => trivial
  | load =>
    obtain ⟨its, s, hturns, hstate⟩ := h
    obtain rfl := hstate
    exact (hturns.inEffect hs₀).setting_eq
  | reloading answers loaded =>
    obtain ⟨its, s, before, hturns, rfl, config, -, hstate⟩ := h
    obtain rfl := hstate
    show ∀ k, setting s.config k =
      settingFrom (lastApplied _ (before.reloads ++ [answers]).dropLast) k
    rw [List.dropLast_concat]
    exact (hturns.inEffect hs₀).setting_eq
  | round =>
    obtain ⟨its, s, before, reload, events, hturns, rfl, hreload⟩ := h
    have hresult : (reloadIfRequested reload s).result = .ok state := by rw [hreload]
    have hfile : lastApplied (startFile calls) (before.reloads ++ reload.toList) =
        (reload.bind appliedFile?).or (lastApplied (startFile calls) before.reloads) := by
      cases reload with
      | none => simp
      | some reload => simp [lastApplied]
    show ∀ k, setting state.config k =
      settingFrom (lastApplied _ (before.reloads ++ reload.toList)) k
    rw [hfile]
    exact ((hturns.inEffect hs₀).reload hresult).setting_eq
  | _ =>
    obtain ⟨its, hturns⟩ := h
    exact (hturns.inEffect hs₀).setting_eq

/-- **The configuration in effect**, whatever signals arrive between whichever statements: it has
the settings of the last file that `config_load` has found and that could be applied, key by key,
and otherwise of the file of the start. It does not depend on anything else, such as how many
requests there were, when they came, or what was refused in between. -/
theorem config_inEffect_interleaved (format : OutputFormat) (calls : StartCalls) (s₀ : MainState)
    (hs₀ : (start calls).result = .ok s₀) (keepRunning reloadRequested : Bool)
    (steps : List Step) :
    ConfigFollows (startFile calls)
      (Machine.run format ⟨.loopTest, keepRunning, reloadRequested, s₀⟩ steps)
      (Machine.account format ⟨.loopTest, keepRunning, reloadRequested, s₀⟩ steps) :=
  configFollows_of_accounts hs₀
    (accounts_run (accounts_start format s₀ keepRunning reloadRequested) steps)

/-- The answers of a quiet system, with a new configuration file. -/
def quietStatement : StatementCalls :=
  ⟨quietReload (ascii "monitor_interval=5\n") (quietProc []), quietRound (quietProc []) 6⟩

/-- A SIGHUP during `sleep`, up to the round. -/
def signalledTurn : List Step :=
  .execute quietStatement :: .deliver .sighup :: List.replicate 7 (.execute quietStatement)

/-- The new interval is in effect in the round. -/
theorem config_inEffect_signalled : ∃ s₀,
    setting (Machine.run .json ⟨.loopTest, true, false, s₀⟩ signalledTurn).state.config
      .monitorInterval = .number 5 := by
  have hok : ((start (quietStart .zero (ascii "process_names=a\n") (quietProc []))).result.map
      fun s₀ => (Machine.run .json ⟨.loopTest, true, false, s₀⟩ signalledTurn).point.untilOver) =
        .ok 2 := by
    decide +kernel
  obtain ⟨s₀, hs₀, hpoint⟩ := ok_of_map_ok hok
  have hfollows := config_inEffect_interleaved .json _ s₀ hs₀ true false signalledTurn
  have hreloads : (Machine.account .json ⟨.loopTest, true, false, s₀⟩ signalledTurn).reloads =
      [quietStatement.reload] := rfl
  refine ⟨s₀, ?_⟩
  have hfile : settingFrom (lastApplied (startFile (quietStart .zero (ascii "process_names=a\n")
      (quietProc []))) [quietStatement.reload]) .monitorInterval = .number 5 := by decide +kernel
  unfold ConfigFollows at hfollows
  rw [hreloads] at hfollows
  split at hfollows
  · next r hstopped =>
    rw [hstopped] at hpoint
    cases hpoint
  · next reload loaded hreloading =>
    rw [hreloading] at hpoint
    cases hpoint
  · exact (hfollows _).trans hfile

end EdgeSentinel.Monitor
