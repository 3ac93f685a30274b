import Mathlib.Tactic.Common
import Mathlib.Data.List.Basic

/-!
# Computations that leave a trace

A program that runs for as long as nothing goes wrong, and is known by what it does on
the way: `Traced ε ρ α` emits events of type `ε` and then either returns an `α` or
stops for a reason in `ρ`. What was emitted before a stop stays emitted.

`Yields` says what a computation may return and why it may stop, and has one rule for
each way to build a computation.

A long run of such a program takes one step for each of its inputs (`run`), until one
stops. The steps it takes are `taken`. `run_inv` and `forall_taken` are the induction used
for every invariant.
-/

namespace EdgeSentinel.Trace

universe u v w

/-- A computation that emits events and then returns, or stops for a reason. -/
@[ext]
structure Traced (ε : Type u) (ρ : Type v) (α : Type w) where
  /-- The events, in order. -/
  events : List ε
  /-- The value returned, or why the computation stopped. -/
  result : Except ρ α

namespace Traced

variable {ε ε' : Type u} {ρ ρ' : Type v} {α β σ : Type w} {ι : Type*}

/-- `x`, and then `f` of what it returned. -/
def bind (x : Traced ε ρ α) (f : α → Traced ε ρ β) : Traced ε ρ β :=
  match x.result with
  | .ok a => ⟨x.events ++ (f a).events, (f a).result⟩
  | .error r => ⟨x.events, .error r⟩

instance : Monad (Traced ε ρ) where
  pure a := ⟨[], .ok a⟩
  bind := Traced.bind

/-- Emit an event. -/
def emit (e : ε) : Traced ε ρ PUnit := ⟨[e], .ok ⟨⟩⟩

/-- Stop for a reason. -/
def stop (r : ρ) : Traced ε ρ α := ⟨[], .error r⟩

/-- The value, if there is one; otherwise stop. -/
def orStop (r : ρ) : Option α → Traced ε ρ α
  | some a => pure a
  | none => stop r

/-- Go on only if the condition holds. -/
def check (r : ρ) (c : Prop) [Decidable c] : Traced ε ρ PUnit := if c then pure ⟨⟩ else stop r

/-- The same computation, with its events and reasons renamed. -/
def rename (f : ε → ε') (g : ρ → ρ') (x : Traced ε ρ α) : Traced ε' ρ' α :=
  ⟨x.events.map f, x.result.mapError g⟩

@[simp] theorem events_pure (a : α) : (pure a : Traced ε ρ α).events = [] := rfl

@[simp] theorem result_pure (a : α) : (pure a : Traced ε ρ α).result = .ok a := rfl

@[simp] theorem events_emit (e : ε) : (emit e : Traced ε ρ PUnit).events = [e] := rfl

@[simp] theorem result_emit (e : ε) : (emit e : Traced ε ρ PUnit).result = .ok ⟨⟩ := rfl

@[simp] theorem events_stop (r : ρ) : (stop r : Traced ε ρ α).events = [] := rfl

@[simp] theorem result_stop (r : ρ) : (stop r : Traced ε ρ α).result = .error r := rfl

/-- Going on after a computation that returned. -/
theorem bind_of_ok {x : Traced ε ρ α} {a : α} (h : x.result = .ok a) (f : α → Traced ε ρ β) :
    x >>= f = ⟨x.events ++ (f a).events, (f a).result⟩ := by
  show Traced.bind x f = _
  rw [Traced.bind, h]

/-- There is no going on after a computation that stopped. -/
theorem bind_of_error {x : Traced ε ρ α} {r : ρ} (h : x.result = .error r)
    (f : α → Traced ε ρ β) : x >>= f = ⟨x.events, .error r⟩ := by
  show Traced.bind x f = _
  rw [Traced.bind, h]

@[simp] theorem pure_bind' (a : α) (f : α → Traced ε ρ β) : (pure a >>= f) = f a := by
  rw [bind_of_ok (result_pure a)]
  rfl

@[simp] theorem stop_bind (r : ρ) (f : α → Traced ε ρ β) : (stop r >>= f) = stop r := rfl

instance : LawfulMonad (Traced ε ρ) := LawfulMonad.mk' _
  (fun x => by
    rcases x with ⟨es, _ | a⟩
    · rfl
    · show (⟨es ++ [], _⟩ : Traced ε ρ _) = _
      rw [List.append_nil]
      rfl)
  (fun a f => pure_bind' a f)
  (fun x f g => by
    rcases hx : x.result with r | a
    · rw [bind_of_error hx, bind_of_error hx, bind_of_error rfl]
    · rw [bind_of_ok hx, bind_of_ok hx]
      rcases hf : (f a).result with r | b
      · rw [bind_of_error hf, bind_of_error (by rfl)]
      · rw [bind_of_ok hf, bind_of_ok (by rfl)]
        simp [List.append_assoc])

/-- What a computation in two parts returns, both parts returned. -/
theorem result_bind_ok {x : Traced ε ρ α} {f : α → Traced ε ρ β} {b : β} :
    (x >>= f).result = .ok b ↔ ∃ a, x.result = .ok a ∧ (f a).result = .ok b := by
  rcases hx : x.result with r | a
  · rw [bind_of_error hx]
    simp
  · rw [bind_of_ok hx]
    simp

/-- The events of a computation in two parts. -/
theorem events_bind {x : Traced ε ρ α} {a : α} (h : x.result = .ok a) (f : α → Traced ε ρ β) :
    (x >>= f).events = x.events ++ (f a).events := by
  rw [bind_of_ok h]

/-- An event of a computation in two parts is one of the first part, or one of the second part
behind what the first one returned. -/
theorem mem_events_bind {x : Traced ε ρ α} {f : α → Traced ε ρ β} {e : ε} :
    e ∈ (x >>= f).events ↔ e ∈ x.events ∨ ∃ a, x.result = .ok a ∧ e ∈ (f a).events := by
  rcases hx : x.result with r | a
  · rw [bind_of_error hx]
    simp
  · rw [bind_of_ok hx]
    simp

/-- A second part that only returns emits nothing. -/
theorem events_bind_pure (x : Traced ε ρ α) (f : α → β) :
    (x >>= fun a => pure (f a)).events = x.events := by
  rcases hx : x.result with r | a
  · rw [bind_of_error hx]
  · rw [bind_of_ok hx, events_pure, List.append_nil]

@[simp] theorem result_emit_bind (e : ε) (f : PUnit → Traced ε ρ β) :
    (emit e >>= f).result = (f ⟨⟩).result := rfl

@[simp] theorem events_emit_bind (e : ε) (f : PUnit → Traced ε ρ β) :
    (emit e >>= f).events = e :: (f ⟨⟩).events := rfl

@[simp] theorem result_orStop_ok {r : ρ} {o : Option α} {a : α} :
    (orStop r o : Traced ε ρ α).result = .ok a ↔ o = some a := by
  cases o <;> simp [orStop]

@[simp] theorem events_orStop (r : ρ) (o : Option α) :
    (orStop r o : Traced ε ρ α).events = [] := by
  cases o <;> rfl

@[simp] theorem result_check_ok {r : ρ} {c : Prop} [Decidable c] {a : PUnit} :
    (check r c : Traced ε ρ PUnit).result = .ok a ↔ c := by
  unfold check
  split_ifs with h <;> simp [h]

@[simp] theorem events_check (r : ρ) (c : Prop) [Decidable c] :
    (check r c : Traced ε ρ PUnit).events = [] := by
  unfold check
  split_ifs <;> rfl

@[simp] theorem events_rename (f : ε → ε') (g : ρ → ρ') (x : Traced ε ρ α) :
    (x.rename f g).events = x.events.map f := rfl

@[simp] theorem result_rename_ok {f : ε → ε'} {g : ρ → ρ'} {x : Traced ε ρ α} {a : α} :
    (x.rename f g).result = .ok a ↔ x.result = .ok a := by
  rcases hx : x.result with r | b <;> simp [rename, hx, Except.mapError]

/-- A value that is seen through a function was returned. -/
theorem ok_of_map_ok {x : Except ρ α} {f : α → β} {b : β} (h : x.map f = .ok b) :
    ∃ a, x = .ok a ∧ f a = b := by
  cases x with
  | error r => cases h
  | ok a => exact ⟨a, rfl, Except.ok.inj h⟩

/-- What returns nothing has stopped. -/
theorem error_of_not_ok {x : Except ρ α} (h : ∀ a, x ≠ .ok a) : ∃ r, x = .error r := by
  cases x with
  | error r => exact ⟨r, rfl⟩
  | ok a => exact absurd rfl (h a)

/-! ### What a computation yields -/

/-- The computation returns only values with `Q`, and stops only for reasons with `E`. -/
structure Yields (x : Traced ε ρ α) (Q : α → Prop) (E : ρ → Prop) : Prop where
  /-- What it returns. -/
  ok : ∀ a, x.result = .ok a → Q a
  /-- Why it stops. -/
  error : ∀ r, x.result = .error r → E r

namespace Yields

variable {x : Traced ε ρ α} {f : α → Traced ε ρ β} {Q Q' : α → Prop} {R : β → Prop}
  {E E' : ρ → Prop} {a : α} {r : ρ}

theorem pure (h : Q a) : (pure a : Traced ε ρ α).Yields Q E :=
  ⟨fun b hb => by obtain rfl := Except.ok.inj hb; exact h, fun r hr => by simp at hr⟩

theorem emit {e : ε} {Q : PUnit → Prop} (h : Q ⟨⟩) : (emit e : Traced ε ρ PUnit).Yields Q E :=
  ⟨fun _ _ => h, fun r hr => by simp at hr⟩

theorem stop (h : E r) : (stop r : Traced ε ρ α).Yields Q E :=
  ⟨fun b hb => by simp at hb, fun r' hr => by obtain rfl := Except.error.inj hr; exact h⟩

theorem orStop {o : Option α} (h : ∀ a, o = some a → Q a) (hr : o = none → E r) :
    (orStop r o : Traced ε ρ α).Yields Q E := by
  cases o with
  | none => exact stop (hr rfl)
  | some a => exact pure (h a rfl)

theorem check {c : Prop} [Decidable c] {Q : PUnit → Prop} (h : c → Q ⟨⟩) (hr : ¬ c → E r) :
    (check r c : Traced ε ρ PUnit).Yields Q E := by
  unfold Traced.check
  split_ifs with hc
  · exact pure (h hc)
  · exact stop (hr hc)

theorem bind (hx : x.Yields Q E) (hf : ∀ a, Q a → (f a).Yields R E) :
    (x >>= f).Yields R E := by
  rcases hres : x.result with r | a
  · rw [bind_of_error hres]
    exact ⟨fun b hb => by simp at hb, fun r' hr => by
      obtain rfl := Except.error.inj hr
      exact hx.error _ hres⟩
  · rw [bind_of_ok hres]
    have := hf a (hx.ok a hres)
    exact ⟨this.ok, this.error⟩

/-- A part of which nothing is known but why it stops. -/
theorem seq (hx : x.Yields (fun _ => True) E) (hf : ∀ a, (f a).Yields R E) :
    (x >>= f).Yields R E :=
  bind hx fun a _ => hf a

theorem emit_bind {e : ε} {f : PUnit → Traced ε ρ β} (hf : (f ⟨⟩).Yields R E) :
    (Traced.emit e >>= f).Yields R E :=
  bind (Q := fun _ => True) (emit trivial) fun _ _ => hf

theorem check_bind {c : Prop} [Decidable c] {f : PUnit → Traced ε ρ β}
    (hf : c → (f ⟨⟩).Yields R E) (hr : ¬ c → E r) : (Traced.check r c >>= f).Yields R E :=
  bind (Q := fun _ => c) (check id hr) fun _ hc => hf hc

theorem orStop_bind {o : Option α} (hf : ∀ a, o = some a → (f a).Yields R E)
    (hr : o = none → E r) : (Traced.orStop r o >>= f).Yields R E :=
  bind (Q := fun a => o = some a) (orStop (fun _ => id) hr) hf

theorem mono (hx : x.Yields Q E) (hQ : ∀ a, Q a → Q' a) (hE : ∀ r, E r → E' r) :
    x.Yields Q' E' :=
  ⟨fun a ha => hQ a (hx.ok a ha), fun r hr => hE r (hx.error r hr)⟩

theorem rename {g : ε → ε'} {h : ρ → ρ'} {E : ρ' → Prop} (hx : x.Yields Q fun r => E (h r)) :
    (x.rename g h).Yields Q E := by
  rcases hres : x.result with r | a
  · refine ⟨fun b hb => by simp [Traced.rename, hres, Except.mapError] at hb, fun r' hr => ?_⟩
    simp only [Traced.rename, hres, Except.mapError, Except.error.injEq] at hr
    exact hr ▸ hx.error r hres
  · refine ⟨fun b hb => hx.ok b (result_rename_ok.mp hb), fun r' hr => ?_⟩
    simp [Traced.rename, hres, Except.mapError] at hr

end Yields

/-! ### What a computation emits -/

/-- The computation emits only events with `P`. -/
def Emits (x : Traced ε ρ α) (P : ε → Prop) : Prop := ∀ e ∈ x.events, P e

namespace Emits

variable {x : Traced ε ρ α} {f : α → Traced ε ρ β} {P : ε → Prop} {a : α} {r : ρ}

theorem pure : (pure a : Traced ε ρ α).Emits P := fun _ he => absurd he List.not_mem_nil

theorem stop : (stop r : Traced ε ρ α).Emits P := fun _ he => absurd he List.not_mem_nil

theorem emit {e : ε} (h : P e) : (emit e : Traced ε ρ PUnit).Emits P := fun _ he =>
  List.mem_singleton.mp he ▸ h

theorem check {c : Prop} [Decidable c] : (check r c : Traced ε ρ PUnit).Emits P := fun e he => by
  simp at he

theorem bind (hx : x.Emits P) (hf : ∀ a, x.result = .ok a → (f a).Emits P) :
    (x >>= f).Emits P := by
  rcases hres : x.result with r | a
  · rw [bind_of_error hres]
    exact hx
  · rw [bind_of_ok hres]
    exact fun e he => (List.mem_append.mp he).elim (hx e) (hf a hres e)

theorem mono {P' : ε → Prop} (hx : x.Emits P) (h : ∀ e, P e → P' e) : x.Emits P' := fun e he =>
  h e (hx e he)

theorem emit_bind {e : ε} {f : PUnit → Traced ε ρ β} (h : P e) (hf : (f ⟨⟩).Emits P) :
    (Traced.emit e >>= f).Emits P :=
  bind (emit h) fun _ _ => hf

theorem check_bind {c : Prop} [Decidable c] {f : PUnit → Traced ε ρ β} (hf : (f ⟨⟩).Emits P) :
    (Traced.check r c >>= f).Emits P :=
  bind check fun _ _ => hf

theorem orStop {o : Option α} : (orStop r o : Traced ε ρ α).Emits P := fun e he => by
  simp at he

theorem orStop_bind {o : Option α} (hf : ∀ a, (f a).Emits P) :
    (Traced.orStop r o >>= f).Emits P :=
  bind orStop fun a _ => hf a

theorem rename {P : ε' → Prop} {g : ε → ε'} {h : ρ → ρ'} (hx : x.Emits fun e => P (g e)) :
    (x.rename g h).Emits P := fun e' he' => by
  obtain ⟨e, he, rfl⟩ := List.mem_map.mp he'
  exact hx e he

end Emits

/-! ### Runs -/

/-- One step for each input, until one stops. -/
def run (step : σ → ι → Traced ε ρ σ) : σ → List ι → Traced ε ρ σ
  | s, [] => pure s
  | s, i :: is => step s i >>= fun s' => run step s' is

/-- The steps a run takes: the state before each, and its input. The last one may be the
one that stops. -/
def taken (step : σ → ι → Traced ε ρ σ) : σ → List ι → List (σ × ι)
  | _, [] => []
  | s, i :: is =>
    (s, i) ::
      match (step s i).result with
      | .ok s' => taken step s' is
      | .error _ => []

@[simp] theorem taken_singleton (step : σ → ι → Traced ε ρ σ) (s : σ) (i : ι) :
    taken step s [i] = [(s, i)] := by
  rw [taken]
  split <;> rfl

/-- A run with one more step. -/
theorem run_concat (step : σ → ι → Traced ε ρ σ) (s : σ) (is : List ι) (i : ι) :
    run step s (is ++ [i]) = run step s is >>= fun s' => step s' i := by
  induction is generalizing s with
  | nil =>
    show (step s i >>= fun s' => pure s') = pure s >>= fun s' => step s' i
    rw [bind_pure, pure_bind]
  | cons j is ih =>
    rw [List.cons_append, run, run, bind_assoc]
    simp only [ih]

/-- The steps are taken in the order of the inputs. -/
theorem isPrefix_map_snd_taken (step : σ → ι → Traced ε ρ σ) (s : σ) (is : List ι) :
    (taken step s is).map Prod.snd <+: is := by
  induction is generalizing s with
  | nil => exact List.prefix_rfl
  | cons i is ih =>
    rw [taken, List.map_cons, List.prefix_cons_inj]
    split
    · exact ih _
    · exact List.nil_prefix

/-- A run that returns has taken a step for every input. -/
theorem map_snd_taken_of_ok {step : σ → ι → Traced ε ρ σ} {s s' : σ} {is : List ι}
    (h : (run step s is).result = .ok s') : (taken step s is).map Prod.snd = is := by
  induction is generalizing s with
  | nil => rfl
  | cons i is ih =>
    obtain ⟨s₁, h₁, h₂⟩ := result_bind_ok.mp h
    rw [taken, h₁, List.map_cons, ih h₂]

/-- A run stops where one of its steps does. -/
theorem exists_taken_of_error {step : σ → ι → Traced ε ρ σ} {s : σ} {is : List ι} {r : ρ}
    (h : (run step s is).result = .error r) :
    ∃ c ∈ taken step s is, (step c.1 c.2).result = .error r := by
  induction is generalizing s with
  | nil => cases h
  | cons i is ih =>
    rw [run] at h
    rw [taken]
    rcases hs : (step s i).result with r' | s'
    · rw [bind_of_error hs] at h
      exact ⟨(s, i), List.mem_cons_self, hs.trans h⟩
    · rw [bind_of_ok hs] at h
      obtain ⟨c, hc, hstop⟩ := ih h
      exact ⟨c, List.mem_cons_of_mem _ hc, hstop⟩

/-- A step that a run takes leads to the next one. -/
theorem result_of_adjacent {step : σ → ι → Traced ε ρ σ} {s : σ} {is : List ι} {b c : σ × ι}
    (h : [b, c] <:+: taken step s is) : (step b.1 b.2).result = .ok c.1 := by
  induction is generalizing s with
  | nil => simp [taken] at h
  | cons i is ih =>
    rw [taken] at h
    rcases hs : (step s i).result with r | s'
    · rw [hs] at h
      simpa using h.length_le
    · rw [hs] at h
      rcases List.infix_cons_iff.mp h with hfirst | hrest
      · obtain ⟨hb, hc⟩ := List.cons_prefix_cons.mp hfirst
        subst hb
        rw [hs]
        cases is with
        | nil => simp [taken] at hc
        | cons j is =>
          have hc : [c] <+: (s', j) :: _ := hc
          rw [(List.cons_prefix_cons.mp hc).1]
      · exact ih hrest

/-- A step that a run takes is its first one, or there is one in front of it. -/
theorem adjacent_of_mem_taken {step : σ → ι → Traced ε ρ σ} {s : σ} {is : List ι} {c : σ × ι}
    (h : c ∈ taken step s is) :
    ([c] <+: taken step s is ∧ c.1 = s) ∨ ∃ b, [b, c] <:+: taken step s is := by
  obtain ⟨front, rest, hsplit⟩ := List.append_of_mem h
  rcases List.eq_nil_or_concat front with rfl | ⟨front, b, rfl⟩
  · left
    cases is with
    | nil => simp [taken] at hsplit
    | cons i is =>
      rw [taken, List.nil_append] at hsplit
      obtain ⟨rfl, hrest⟩ := List.cons.inj hsplit
      exact ⟨⟨_, rfl⟩, rfl⟩
  · exact .inr ⟨b, front, rest, by rw [hsplit]; simp⟩

/-- The events of a run are those of its steps. -/
theorem mem_events_run {step : σ → ι → Traced ε ρ σ} {s : σ} {is : List ι} {e : ε} :
    e ∈ (run step s is).events ↔ ∃ c ∈ taken step s is, e ∈ (step c.1 c.2).events := by
  induction is generalizing s with
  | nil => simp [run, taken]
  | cons i is ih =>
    rw [run, taken]
    rcases hs : (step s i).result with r | s'
    · rw [bind_of_error hs]
      simp
    · rw [bind_of_ok hs]
      simp [ih]

/-- A run of steps that emit only events with `P`. -/
theorem Emits.run {step : σ → ι → Traced ε ρ σ} {P : ε → Prop}
    (h : ∀ s i, (step s i).Emits P) (s : σ) (is : List ι) : (Traced.run step s is).Emits P :=
  fun e he => by
    obtain ⟨c, -, he⟩ := mem_events_run.mp he
    exact h c.1 c.2 e he

/-- **The invariant rule**: what holds of the first state and is kept by every step that
does not stop holds before every step of a run. -/
theorem forall_taken {step : σ → ι → Traced ε ρ σ} {I : σ → Prop}
    (keep : ∀ s i s', I s → (step s i).result = .ok s' → I s') {s : σ} (h : I s)
    (is : List ι) : ∀ c ∈ taken step s is, I c.1 := by
  induction is generalizing s with
  | nil => simp [taken]
  | cons i is ih =>
    rw [taken]
    intro c hc
    rcases List.mem_cons.mp hc with rfl | hc
    · exact h
    · split at hc
      · next s' hs => exact ih (keep _ _ _ h hs) c hc
      · simp at hc

/-- The invariant rule, for what depends on the number of the step. -/
theorem inv_of_getElem?_taken {step : σ → ι → Traced ε ρ σ} {I : ℕ → σ → Prop}
    (keep : ∀ n s i s', I n s → (step s i).result = .ok s' → I (n + 1) s') {s : σ} (h : I 0 s)
    {is : List ι} {n : ℕ} {c : σ × ι} (hc : (taken step s is)[n]? = some c) : I n c.1 := by
  induction is generalizing s n I with
  | nil => simp [taken] at hc
  | cons i is ih =>
    rw [taken] at hc
    cases n with
    | zero =>
      obtain rfl := Option.some.inj hc
      exact h
    | succ n =>
      rw [List.getElem?_cons_succ] at hc
      rcases hs : (step s i).result with r | s'
      · simp [hs] at hc
      · rw [hs] at hc
        exact ih (I := fun n => I (n + 1)) (fun n => keep (n + 1)) (keep 0 s i s' h hs) hc

/-- The invariant rule, for what is kept in step with a fold over the inputs: of the state it is
enough to know what the fold has made of the inputs so far. -/
theorem foldl_of_getElem?_taken {τ : Type*} {step : σ → ι → Traced ε ρ σ} {f : τ → ι → τ}
    {I : τ → σ → Prop} (keep : ∀ t s i s', I t s → (step s i).result = .ok s' → I (f t i) s')
    {t : τ} {s : σ} (h : I t s) {is : List ι} {n : ℕ} {c : σ × ι}
    (hc : (taken step s is)[n]? = some c) :
    I ((is.take n).foldl f t) c.1 ∧ is[n]? = some c.2 := by
  induction is generalizing s n t with
  | nil => simp [taken] at hc
  | cons i is ih =>
    rw [taken] at hc
    cases n with
    | zero =>
      obtain rfl := Option.some.inj hc
      exact ⟨h, rfl⟩
    | succ n =>
      rw [List.getElem?_cons_succ] at hc
      rcases hs : (step s i).result with r | s'
      · simp [hs] at hc
      · rw [hs] at hc
        exact ih (keep t s i s' h hs) hc

/-- The invariant rule for the last state of a run. -/
theorem run_inv {step : σ → ι → Traced ε ρ σ} {I : σ → Prop}
    (keep : ∀ s i s', I s → (step s i).result = .ok s' → I s') {s s' : σ} {is : List ι}
    (h : I s) (hr : (run step s is).result = .ok s') : I s' := by
  induction is generalizing s with
  | nil =>
    simp only [run, result_pure, Except.ok.injEq] at hr
    exact hr ▸ h
  | cons i is ih =>
    obtain ⟨s₁, h₁, h₂⟩ := result_bind_ok.mp hr
    exact ih (keep _ _ _ h h₁) h₂

/-- The invariant rule for the last state of a run, for what is kept in step with a fold over the
inputs. -/
theorem foldl_of_run {τ : Type*} {step : σ → ι → Traced ε ρ σ} {f : τ → ι → τ}
    {I : τ → σ → Prop} (keep : ∀ t s i s', I t s → (step s i).result = .ok s' → I (f t i) s')
    {t : τ} {s s' : σ} {is : List ι} (h : I t s) (hr : (run step s is).result = .ok s') :
    I (is.foldl f t) s' := by
  induction is generalizing s t with
  | nil =>
    simp only [run, result_pure, Except.ok.injEq] at hr
    exact hr ▸ h
  | cons i is ih =>
    obtain ⟨s₁, h₁, h₂⟩ := result_bind_ok.mp hr
    exact ih (keep t s i s₁ h h₁) h₂

/-- A run of steps that keep an invariant. -/
theorem Yields.run {step : σ → ι → Traced ε ρ σ} {I : σ → Prop} {E : ρ → Prop} {is : List ι}
    (keep : ∀ s, ∀ i ∈ is, I s → (step s i).Yields I E) {s : σ} (h : I s) :
    (Traced.run step s is).Yields I E := by
  induction is generalizing s with
  | nil => exact .pure h
  | cons i is ih =>
    exact .bind (keep s i List.mem_cons_self h) fun s' hs' =>
      ih (fun s j hj => keep s j (List.mem_cons_of_mem _ hj)) hs'

end Traced

end EdgeSentinel.Trace
