import EdgeSentinel.Monitor.MainLoop
import Mathlib.Data.List.Count

/-!
# Signals

The handlers of SIGINT and SIGTERM clear `keep_running`, that of SIGHUP sets
`reload_requested`, and the loop of `main` looks at these flags. A signal may arrive between
any two of its statements.

## The model

A `Machine` is the loop between two of its statements: the next one (`Point`), the two flags,
and the other variables. A step of a run (`Step`) is a signal that is delivered, or the next
statement, given what the operating system answers. The statements behind `config_load`, and
those of the round, are one step each: they neither read nor write the flags, so a signal that
arrives among them is as good as one that arrives in front of them.

`Machine.trace` is what a run does that the flags are there for (`LoopAction`).

## What is proved

* `signals_heeded` — behind a SIGHUP, at every later point, the flag is set, or `config_load`
  has been called since, or the next two statements call it. Behind a stop signal, the next
  evaluation of `keep_running` leaves the loop: only a turn that was past its check is
  completed, with at most one reload and one round.
* `machine_refines` — whatever signals arrive, the variables go through turns of the loop as
  `iteration` has them, and the machine stops as such a run does.
-/

namespace EdgeSentinel.Monitor

open CLib Config Trace Trace.Traced

/-! ### The loop, statement by statement -/

/-- The next statement of the loop. -/
inductive Point where
  /-- `while (keep_running)`. -/
  | loopTest
  /-- `sleep(config.monitor_interval)`. -/
  | sleep
  /-- `if (!keep_running) break`. -/
  | stopTest
  /-- `if (reload_requested)`. -/
  | reloadTest
  /-- `reload_requested = 0`. -/
  | clear
  /-- `config_set_defaults(&reloaded_config)`. -/
  | setDefaults
  /-- `config_load(config_file, &reloaded_config)`. -/
  | load
  /-- The rest of the attempt, behind `config_load`, which returned 0 or not. -/
  | reloading (calls : ReloadCalls) (loaded : Bool)
  /-- The round. -/
  | round
  /-- Behind the loop. -/
  | left
  /-- `main` has returned 1. -/
  | stopped (reason : Exit)

/-- The signals that are handled. -/
inductive Signal where
  /-- `SIGHUP`. -/
  | sighup
  /-- `SIGINT`. -/
  | sigint
  /-- `SIGTERM`. -/
  | sigterm
  deriving DecidableEq, Repr

/-- The loop between two of its statements. -/
structure Machine where
  /-- The next statement. -/
  point : Point
  /-- `keep_running`. -/
  keepRunning : Bool
  /-- `reload_requested`. -/
  reloadRequested : Bool
  /-- The other variables. -/
  state : MainState

/-- What the flags are there for. -/
inductive LoopAction where
  /-- `keep_running` is evaluated. -/
  | evaluated (keepRunning : Bool)
  /-- `config_load` is called. -/
  | configLoad
  /-- The round is begun: everything is sampled. -/
  | sampled
  deriving DecidableEq, Repr

/-- `handle_stop_signal`. -/
def handleStopSignal (m : Machine) : Machine := { m with keepRunning := false }

/-- `handle_reload_signal`. -/
def handleReloadSignal (m : Machine) : Machine := { m with reloadRequested := true }

/-- The handler of a signal. -/
def handle : Signal → Machine → Machine
  | .sighup => handleReloadSignal
  | .sigint | .sigterm => handleStopSignal

/-- The rest of `attemptReload`, behind `config_load`. -/
def attemptLoaded (calls : ReloadCalls) (loaded : Bool) (s : MainState) :
    Option ReloadStep × MainState :=
  if ¬ loaded then (some .load, s)
  else if configValidate s.reloadedConfig ≠ none then (some .validate, s)
  else
    let logger := loggerInit (mkdirCalls calls.mkdir) s.reloadedConfig.logFile.cstr
      s.reloadedConfig.logMaxSize s.currentLogMaxSize 0
    let s := { s with currentLogMaxSize := logger.currentLogMaxSize }
    if ¬ logger.succeeded then (some .logger, s)
    else
      match readNetworkInfoFiltered s.reloadedConfig calls.procNetDev with
      | none => (some .network, s)
      | some network =>
        let s := { s with currentNetwork := network }
        match calls.clock with
        | none => (some .clock, s)
        | some time => (none, { s with currentNetworkTime := time })

/-- The rest of `reload`, behind `config_load`. -/
def reloadLoaded (calls : ReloadCalls) (loaded : Bool) (s : MainState) :
    Traced Event Exit MainState :=
  match attemptLoaded calls loaded s with
  | (some step, s) => do
    emit ⟨.system, .reloadFailed step⟩
    pure s
  | (none, s) => applyReload calls s

/-- What the operating system answers to the next statement. -/
structure StatementCalls where
  /-- If it is `config_load`, with the rest of the reload. -/
  reload : ReloadCalls
  /-- If it is the round. -/
  round : RoundCalls

/-- A step of a run. -/
inductive Step where
  /-- A signal is delivered. -/
  | deliver (signal : Signal)
  /-- The next statement is executed. -/
  | execute (answers : StatementCalls)

/-- The machine behind a computation: it goes on at a point, or has stopped. -/
def Machine.behind (m : Machine) (x : Traced Event Exit MainState) (next : Point) : Machine :=
  match x.result with
  | .ok s => { m with point := next, state := s }
  | .error r => { m with point := .stopped r }

/-- The next statement. -/
def Machine.execute (format : OutputFormat) (m : Machine) (answers : StatementCalls) : Machine :=
  match m.point with
  | .loopTest => { m with point := if m.keepRunning then .sleep else .left }
  | .sleep => { m with point := .stopTest }
  | .stopTest => { m with point := if ¬ m.keepRunning then .left else .reloadTest }
  | .reloadTest => { m with point := if m.reloadRequested then .clear else .round }
  | .clear => { m with point := .setDefaults, reloadRequested := false }
  | .setDefaults => { m with
      point := .load
      state := { m.state with reloadedConfig := configSetDefaults m.state.reloadedConfig } }
  | .load =>
    let (loaded, config) := Config.configLoad answers.reload.configFile m.state.reloadedConfig
    { m with
      point := .reloading answers.reload loaded
      state := { m.state with reloadedConfig := config } }
  | .reloading calls loaded => m.behind (reloadLoaded calls loaded m.state) .round
  | .round => m.behind (round format answers.round m.state) .loopTest
  | .left => m
  | .stopped _ => m

/-- What it does. -/
def Machine.executed (m : Machine) : List LoopAction :=
  match m.point with
  | .loopTest | .stopTest => [.evaluated m.keepRunning]
  | .load => [.configLoad]
  | .round => [.sampled]
  | _ => []

variable (format : OutputFormat)

/-- A step. -/
def Machine.step (m : Machine) : Step → Machine
  | .deliver signal => handle signal m
  | .execute answers => m.execute format answers

/-- What a step does. -/
def Machine.actions (m : Machine) : Step → List LoopAction
  | .deliver _ => []
  | .execute _ => m.executed

/-- Some steps. -/
def Machine.run (m : Machine) (steps : List Step) : Machine := steps.foldl (Machine.step format) m

/-- What they do. -/
def Machine.trace (m : Machine) : List Step → List LoopAction
  | [] => []
  | step :: steps => m.actions step ++ (m.step format step).trace steps

variable {format : OutputFormat} {m : Machine} {steps : List Step}

/-! ### SIGHUP -/

/-- `reload_requested` has been cleared for a reload, and `config_load` is yet to be called. -/
def Machine.AboutToLoad (m : Machine) : Prop := m.point = .setDefaults ∨ m.point = .load

/-- A request is pending: the flag is set, or `config_load` is yet to be called. -/
def Machine.Pending (m : Machine) : Prop := m.reloadRequested = true ∨ m.AboutToLoad

theorem reloadRequested_behind (x : Traced Event Exit MainState) (next : Point) :
    (m.behind x next).reloadRequested = m.reloadRequested := by
  unfold Machine.behind
  split <;> rfl

theorem keepRunning_behind (x : Traced Event Exit MainState) (next : Point) :
    (m.behind x next).keepRunning = m.keepRunning := by
  unfold Machine.behind
  split <;> rfl

/-- **A step** behind which a request is no longer pending calls `config_load`. -/
theorem pending_step (h : m.Pending) (step : Step) :
    (m.step format step).Pending ∨ .configLoad ∈ m.actions step := by
  obtain ⟨point, keepRunning, reloadRequested, state⟩ := m
  cases step with
  | deliver signal =>
    left
    cases signal with
    | sighup => exact .inl rfl
    | sigint => exact h
    | sigterm => exact h
  | execute answers =>
    rcases h with hflag | hpoint | hpoint
    · cases point with
      | clear => exact .inl (.inr (.inl rfl))
      | reloading calls loaded => exact .inl (.inl ((reloadRequested_behind _ _).trans hflag))
      | round => exact .inl (.inl ((reloadRequested_behind _ _).trans hflag))
      | _ => exact .inl (.inl hflag)
    · obtain rfl := hpoint
      exact .inl (.inr (.inr rfl))
    · obtain rfl := hpoint
      exact .inr (List.mem_singleton_self _)

variable (format) in
/-- A request stays pending until `config_load` is called. -/
theorem pending_run (h : m.Pending) (steps : List Step) :
    (m.run format steps).Pending ∨ .configLoad ∈ m.trace format steps := by
  induction steps generalizing m with
  | nil => exact .inl h
  | cons step steps ih =>
    rw [Machine.trace, List.mem_append]
    rcases pending_step h step with hnext | hload
    · exact (ih hnext).imp id .inr
    · exact .inr (.inl hload)

/-- A statement is executed. -/
def Step.isExecute : Step → Bool
  | .deliver _ => false
  | .execute _ => true

theorem point_handle (signal : Signal) (m : Machine) : (handle signal m).point = m.point := by
  cases signal <;> rfl

theorem load_trace (h : m.point = .load) (steps : List Step)
    (hone : 1 ≤ steps.countP Step.isExecute) : .configLoad ∈ m.trace format steps := by
  induction steps generalizing m with
  | nil => simp at hone
  | cons step steps ih =>
    rw [Machine.trace, List.mem_append]
    cases step with
    | deliver signal =>
      rw [List.countP_cons_of_neg (by simp [Step.isExecute])] at hone
      exact .inr (ih ((point_handle signal m).trans h) hone)
    | execute answers =>
      left
      simp [Machine.actions, Machine.executed, h]

/-- Where `config_load` is yet to be called, it is called by the next two statements, whatever
signals arrive. -/
theorem aboutToLoad_trace (h : m.AboutToLoad) (steps : List Step)
    (htwo : 2 ≤ steps.countP Step.isExecute) : .configLoad ∈ m.trace format steps := by
  rcases h with h | h
  · induction steps generalizing m with
    | nil => simp at htwo
    | cons step steps ih =>
      rw [Machine.trace, List.mem_append]
      right
      cases step with
      | deliver signal =>
        rw [List.countP_cons_of_neg (by simp [Step.isExecute])] at htwo
        exact ih htwo ((point_handle signal m).trans h)
      | execute answers =>
        rw [List.countP_cons_of_pos rfl] at htwo
        refine load_trace ?_ steps (by omega)
        simp [Machine.step, Machine.execute, h]
  · exact load_trace h steps (by omega)

/-- A reload that was requested is not lost in these steps. -/
def RequestKept (format : OutputFormat) (m : Machine) (steps : List Step) : Prop :=
  (m.run format steps).reloadRequested = true ∨ .configLoad ∈ m.trace format steps ∨
    ∀ later : List Step, 2 ≤ later.countP Step.isExecute →
      .configLoad ∈ (m.run format steps).trace format later

/-- **No request is lost**: behind a SIGHUP, the flag stays set, until it is cleared for a reload
that calls `config_load`. -/
theorem request_kept (format : OutputFormat) (m : Machine) (steps : List Step) :
    RequestKept format (handle .sighup m) steps := by
  have hset : (handle .sighup m).Pending := .inl rfl
  rcases pending_run format hset steps with (hflag | habout) | hload
  · exact .inl hflag
  · exact .inr (.inr fun later htwo => aboutToLoad_trace habout later htwo)
  · exact .inr (.inl hload)

/-! ### Stop signals -/

/-- How often `config_load` can still be called in the turn of the loop. -/
def Point.loadsLeft : Point → ℕ
  | .reloadTest | .clear | .setDefaults | .load => 1
  | _ => 0

/-- How often the round can still be begun in it. -/
def Point.roundsLeft : Point → ℕ
  | .reloadTest | .clear | .setDefaults | .load | .reloading _ _ | .round => 1
  | _ => 0

/-- The turn of the loop is past its check behind `sleep`. -/
def Point.PastCheck : Point → Prop
  | .reloadTest | .clear | .setDefaults | .load | .reloading _ _ | .round => True
  | _ => False

variable (format) in
theorem keepRunning_step (step : Step) (h : m.keepRunning = false) :
    (m.step format step).keepRunning = false := by
  obtain ⟨point, keepRunning, reloadRequested, state⟩ := m
  cases step with
  | deliver signal =>
    cases signal with
    | sighup => exact h
    | sigint => rfl
    | sigterm => rfl
  | execute answers =>
    cases point with
    | reloading calls loaded => exact (keepRunning_behind _ _).trans h
    | round => exact (keepRunning_behind _ _).trans h
    | _ => exact h

theorem left_behind (x : Traced Event Exit MainState) (next : Point) :
    (m.behind x next).point.loadsLeft ≤ next.loadsLeft ∧
      (m.behind x next).point.roundsLeft ≤ next.roundsLeft := by
  unfold Machine.behind
  split
  · exact ⟨Nat.le_refl _, Nat.le_refl _⟩
  · exact ⟨Nat.zero_le _, Nat.zero_le _⟩

variable (format) in
/-- **A step** of a machine that is to stop uses up what is left of the turn. -/
theorem left_step (step : Step) (h : m.keepRunning = false) :
    (m.actions step).count .configLoad + (m.step format step).point.loadsLeft ≤
      m.point.loadsLeft ∧
    (m.actions step).count .sampled + (m.step format step).point.roundsLeft ≤
      m.point.roundsLeft := by
  obtain ⟨point, keepRunning, reloadRequested, state⟩ := m
  obtain rfl : keepRunning = false := h
  cases step with
  | deliver signal =>
    show [].count _ + (handle signal _).point.loadsLeft ≤ _ ∧
      [].count _ + (handle signal _).point.roundsLeft ≤ _
    rw [point_handle]
    simp
  | execute answers =>
    cases point with
    | reloadTest =>
      cases reloadRequested with
      | false => exact ⟨Nat.zero_le _, Nat.le_refl _⟩
      | true => exact ⟨Nat.le_refl _, Nat.le_refl _⟩
    | reloading calls loaded =>
      obtain ⟨hloads, hrounds⟩ := left_behind (m := ⟨.reloading calls loaded, false,
        reloadRequested, state⟩) (reloadLoaded calls loaded state) .round
      exact ⟨(Nat.zero_add _).trans_le hloads, (Nat.zero_add _).trans_le hrounds⟩
    | round =>
      obtain ⟨hloads, hrounds⟩ := left_behind (m := ⟨.round, false, reloadRequested, state⟩)
        (Monitor.round format answers.round state) .loopTest
      exact ⟨(Nat.zero_add _).trans_le hloads, Nat.add_le_add_left hrounds 1⟩
    | _ => exact ⟨Nat.le_refl _, Nat.le_refl _⟩

variable (format) in
/-- What a machine that is to stop still does of the turn. -/
theorem count_trace_le (h : m.keepRunning = false) (steps : List Step) :
    (m.trace format steps).count .configLoad ≤ m.point.loadsLeft ∧
      (m.trace format steps).count .sampled ≤ m.point.roundsLeft := by
  induction steps generalizing m with
  | nil => exact ⟨Nat.zero_le _, Nat.zero_le _⟩
  | cons step steps ih =>
    obtain ⟨hloads, hrounds⟩ := left_step format step h
    obtain ⟨ihloads, ihrounds⟩ := ih (keepRunning_step format step h)
    rw [Machine.trace, List.count_append, List.count_append]
    exact ⟨by omega, by omega⟩

/-- Nothing is done behind the loop. -/
theorem trace_left (h : m.point = .left) (steps : List Step) : m.trace format steps = [] := by
  induction steps generalizing m with
  | nil => rfl
  | cons step steps ih =>
    cases step with
    | deliver signal => exact ih ((point_handle signal m).trans h)
    | execute answers =>
      have hnext : m.execute format answers = m := by
        unfold Machine.execute
        rw [h]
      have hnothing : m.executed = [] := by
        unfold Machine.executed
        rw [h]
      rw [Machine.trace, Machine.actions, hnothing, Machine.step, hnext]
      exact ih h

variable (format) in
/-- What a step of a machine that is to stop does: if it evaluates `keep_running`, it leaves. -/
theorem actions_of_stop (h : m.keepRunning = false) (step : Step) :
    m.actions step = [] ∨ m.actions step = [.configLoad] ∨ m.actions step = [.sampled] ∨
      m.actions step = [.evaluated false] ∧ (m.step format step).point = .left := by
  obtain ⟨point, keepRunning, reloadRequested, state⟩ := m
  obtain rfl : keepRunning = false := h
  cases step with
  | deliver signal => exact .inl rfl
  | execute answers =>
    cases point with
    | loopTest => exact .inr (.inr (.inr ⟨rfl, rfl⟩))
    | stopTest => exact .inr (.inr (.inr ⟨rfl, rfl⟩))
    | load => exact .inr (.inl rfl)
    | round => exact .inr (.inr (.inl rfl))
    | _ => exact .inl rfl

/-- An evaluation of `keep_running` by a machine that is to stop is the last thing it does. -/
theorem evaluated_last (h : m.keepRunning = false) {steps : List Step}
    {front rest : List LoopAction} {b : Bool}
    (htrace : m.trace format steps = front ++ .evaluated b :: rest) : b = false ∧ rest = [] := by
  induction steps generalizing m front with
  | nil => simp [Machine.trace] at htrace
  | cons step steps ih =>
    have hstop := keepRunning_step format step h
    rw [Machine.trace] at htrace
    -- an action in front of the evaluation is passed over
    have hpass : ∀ action : LoopAction, action ≠ .evaluated b →
        [action] ++ (m.step format step).trace format steps = front ++ .evaluated b :: rest →
        b = false ∧ rest = [] := by
      intro action hne heq
      cases front with
      | nil => exact absurd (List.cons.inj heq).1 hne
      | cons _ front => exact ih hstop (List.cons.inj heq).2
    rcases actions_of_stop format h step with hnone | hload | hround | ⟨heval, hleft⟩
    · rw [hnone] at htrace
      exact ih hstop htrace
    · exact hpass .configLoad (by simp) (hload ▸ htrace)
    · exact hpass .sampled (by simp) (hround ▸ htrace)
    · rw [heval, trace_left hleft, List.append_nil] at htrace
      cases front with
      | nil =>
        obtain ⟨heq, hrest⟩ := List.cons.inj htrace
        exact ⟨(LoopAction.evaluated.inj heq).symm, hrest.symm⟩
      | cons action front => simp at htrace

theorem Point.left_le (point : Point) : point.loadsLeft ≤ 1 ∧ point.roundsLeft ≤ 1 := by
  unfold Point.loadsLeft Point.roundsLeft
  constructor <;> split <;> omega

theorem Point.left_of_not_pastCheck {point : Point} (h : ¬ point.PastCheck) :
    point.loadsLeft = 0 ∧ point.roundsLeft = 0 := by
  cases point with
  | reloadTest => exact absurd trivial h
  | clear => exact absurd trivial h
  | setDefaults => exact absurd trivial h
  | load => exact absurd trivial h
  | reloading calls loaded => exact absurd trivial h
  | round => exact absurd trivial h
  | _ => exact ⟨rfl, rfl⟩

/-- A stop signal is heeded in these steps behind it. -/
structure StopHeeded (format : OutputFormat) (m : Machine) (signal : Signal) (steps : List Step) :
    Prop where
  /-- The next evaluation of `keep_running` leaves the loop. -/
  leaves : ∀ front b rest,
    (handle signal m).trace format steps = front ++ .evaluated b :: rest → b = false ∧ rest = []
  /-- Until then, at most one configuration is loaded. -/
  loads : ((handle signal m).trace format steps).count .configLoad ≤ 1
  /-- At most one round is begun. -/
  rounds : ((handle signal m).trace format steps).count .sampled ≤ 1
  /-- And neither, unless the turn was past its check. -/
  pastCheck : ¬ m.point.PastCheck → .configLoad ∉ (handle signal m).trace format steps ∧
    .sampled ∉ (handle signal m).trace format steps

theorem stop_heeded (format : OutputFormat) (m : Machine) {signal : Signal}
    (hstop : (handle signal m).keepRunning = false) (steps : List Step) :
    StopHeeded format m signal steps := by
  obtain ⟨hloads, hrounds⟩ := count_trace_le format hstop steps
  rw [point_handle] at hloads hrounds
  obtain ⟨hload, hround⟩ := m.point.left_le
  refine ⟨fun front b rest h => evaluated_last hstop h, hloads.trans hload,
    hrounds.trans hround, fun hpast => ?_⟩
  obtain ⟨hnoload, hnoround⟩ := Point.left_of_not_pastCheck hpast
  rw [← List.count_eq_zero, ← List.count_eq_zero]
  exact ⟨by omega, by omega⟩

/-- **Signals**, whichever way they are interleaved with the statements of the loop. Behind a
SIGHUP, at every later point, `reload_requested` is set, or `config_load` has been called
since, or the flag was cleared for a reload that is yet to call it, with the next two
statements. Behind a stop signal, the next evaluation of `keep_running` leaves the loop: at
most the turn that was past its check is completed. -/
theorem signals_heeded (format : OutputFormat) (m : Machine) (steps : List Step) :
    RequestKept format (handle .sighup m) steps ∧ StopHeeded format m .sigint steps ∧
      StopHeeded format m .sigterm steps :=
  ⟨request_kept format m steps, stop_heeded format m rfl steps, stop_heeded format m rfl steps⟩

/-! ### The loop as turns -/

/-- `attemptReload` calls `config_load`, and then does the rest. -/
theorem reload_eq_reloadLoaded (calls : ReloadCalls) (s : MainState) :
    reload calls s = reloadLoaded calls
      (Config.configLoad calls.configFile (configSetDefaults s.reloadedConfig)).1
      { s with reloadedConfig :=
        (Config.configLoad calls.configFile (configSetDefaults s.reloadedConfig)).2 } := rfl

/-- The variables after some turns of the loop. -/
def AfterTurns (format : OutputFormat) (s₀ s : MainState) : Prop :=
  ∃ its, (Traced.run (iteration format) s₀ its).result = .ok s

/-- The machine is where the turns of the loop lead. -/
def FollowsTurns (format : OutputFormat) (s₀ : MainState) (m : Machine) : Prop :=
  match m.point with
  | .load => ∃ s, AfterTurns format s₀ s ∧
      m.state = { s with reloadedConfig := configSetDefaults s.reloadedConfig }
  | .reloading calls loaded => ∃ s, AfterTurns format s₀ s ∧
      (reloadIfRequested (some calls) s) = reloadLoaded calls loaded m.state
  | .round => ∃ s calls, AfterTurns format s₀ s ∧
      (reloadIfRequested calls s).result = .ok m.state
  | .stopped r => ∃ its, (Traced.run (iteration format) s₀ its).result = .error r
  | _ => AfterTurns format s₀ m.state

variable {s₀ : MainState}

/-- One more turn of the loop. -/
theorem run_turn {s : MainState} {its : List Iteration}
    (h : (Traced.run (iteration format) s₀ its).result = .ok s) (it : Iteration) :
    (Traced.run (iteration format) s₀ (its ++ [it])).result = (iteration format s it).result := by
  rw [run_concat, bind_of_ok h]

/-- A turn whose reload stops stops. -/
theorem iteration_of_reload_error {s : MainState} {it : Iteration} {r : Exit}
    (h : (reloadIfRequested it.reload s).result = .error r) :
    (iteration format s it).result = .error r := by
  rw [iteration, bind_of_error h]

/-- Behind its reload, a turn does its round. -/
theorem iteration_of_reload_ok {s s₁ : MainState} {it : Iteration}
    (h : (reloadIfRequested it.reload s).result = .ok s₁) :
    (iteration format s it).result = (round format it.round s₁).result := by
  rw [iteration, bind_of_ok h]

/-- **A step** follows the turns of the loop. -/
theorem followsTurns_step (h : FollowsTurns format s₀ m) (step : Step) :
    FollowsTurns format s₀ (m.step format step) := by
  obtain ⟨point, keepRunning, reloadRequested, state⟩ := m
  cases step with
  | deliver signal => cases signal <;> exact h
  | execute answers =>
    cases point with
    | loopTest => cases keepRunning <;> exact h
    | stopTest => cases keepRunning <;> exact h
    | reloadTest =>
      cases reloadRequested with
      | false => exact ⟨state, none, h, rfl⟩
      | true => exact h
    | setDefaults => exact ⟨state, h, rfl⟩
    | load =>
      obtain ⟨s, hs, hstate⟩ := h
      obtain rfl := hstate
      exact ⟨s, hs, reload_eq_reloadLoaded answers.reload s⟩
    | reloading calls loaded =>
      obtain ⟨s, ⟨its, hs⟩, hreload⟩ := h
      show FollowsTurns format s₀ (Machine.behind _ (reloadLoaded calls loaded state) .round)
      unfold Machine.behind
      cases hresult : (reloadLoaded calls loaded state).result with
      | ok s₁ => exact ⟨s, some calls, ⟨its, hs⟩, by rw [hreload, hresult]⟩
      | error r =>
        refine ⟨its ++ [⟨some calls, answers.round⟩], ?_⟩
        rw [run_turn hs, iteration_of_reload_error (r := r)]
        rw [hreload, hresult]
    | round =>
      obtain ⟨s, calls, ⟨its, hs⟩, hreload⟩ := h
      have hturn := (run_turn hs ⟨calls, answers.round⟩).trans (iteration_of_reload_ok hreload)
      show FollowsTurns format s₀
        (Machine.behind _ (Monitor.round format answers.round state) .loopTest)
      unfold Machine.behind
      cases hresult : (Monitor.round format answers.round state).result with
      | ok s' => exact ⟨_, hturn.trans hresult⟩
      | error r => exact ⟨_, hturn.trans hresult⟩
    | _ => exact h

/-- **The machine refines the loop**: whatever signals arrive, the variables go through turns
of the loop as `iteration` has them, with a reload in those that find `reload_requested` set,
and where the machine has stopped, such a run stops for the same reason. -/
theorem machine_refines (format : OutputFormat) (s₀ : MainState)
    (keepRunning reloadRequested : Bool) (steps : List Step) :
    FollowsTurns format s₀
      (Machine.run format ⟨.loopTest, keepRunning, reloadRequested, s₀⟩ steps) :=
  List.foldlRecOn steps _ ⟨[], rfl⟩ fun _ h step _ => followsTurns_step h step

end EdgeSentinel.Monitor
