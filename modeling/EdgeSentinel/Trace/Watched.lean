import EdgeSentinel.Trace.ChangeDetector
import EdgeSentinel.Trace.Traced

/-!
# Computations under a change detector

A `view` picks out of the events of a computation what a detector observes. `Watched` is
the specification of a computation by what becomes of the detector: it relates the value
returned to the state the detector is left in. A computation that stops has to leave
nothing unreported, except for some reasons.

There is one rule for each way to build a computation, as for `Yields`.
-/

namespace EdgeSentinel.Trace

universe u v w

variable {α : Type*} [DecidableEq α]

namespace Detector

/-- The state of a detector that has seen `b` last, after the value `a`. -/
def afterValue (b : Option α) (a : α) : Detector α :=
  match b with
  | none => settled (some a)
  | some b => if b = a then settled (some b) else ⟨some a, some (b, a)⟩

theorem step_value (b : Option α) (a : α) :
    (settled b).step (.value a) = some (afterValue b a) := by
  cases b with
  | none => rfl
  | some b =>
    simp only [step, settled, afterValue]
    split_ifs <;> rfl

@[simp] theorem step_reset (b : Option α) : (settled b).step .reset = some (settled none) := rfl

/-- The change that is owed is reported. -/
theorem step_report (b : Option α) (r : α × α) :
    step ⟨b, some r⟩ (.report r.1 r.2) = some (settled b) := by
  simp [step]

end Detector

namespace Traced

variable {ε ε' : Type u} {ρ ρ' : Type v} {β γ σ : Type w} {ι : Type*}

/-- Under a detector in the state `d`, the computation returns only values that are related
by `Q` to the state the detector is in then. If it stops, nothing is left unreported, or
the reason is one of `E`. -/
structure Watched (view : ε → Option (Observation α)) (d : Detector α) (x : Traced ε ρ β)
    (Q : β → Detector α → Prop) (E : ρ → Prop) : Prop where
  /-- What it returns. -/
  ok : ∀ b, x.result = .ok b → ∃ d', d.run (x.events.filterMap view) = some d' ∧ Q b d'
  /-- How it stops. -/
  error : ∀ r, x.result = .error r →
    E r ∨ ∃ b, d.run (x.events.filterMap view) = some (.settled b)

namespace Watched

variable {view : ε → Option (Observation α)} {d d' : Detector α} {x : Traced ε ρ β}
  {f : β → Traced ε ρ γ} {Q Q' : β → Detector α → Prop} {R : γ → Detector α → Prop}
  {E E' : ρ → Prop} {b : β} {r : ρ} {e : ε}

theorem pure (h : Q b d) : Watched view d (pure b : Traced ε ρ β) Q E :=
  ⟨fun b' hb => by obtain rfl := Except.ok.inj hb; exact ⟨d, rfl, h⟩, fun r hr => by simp at hr⟩

theorem stop (h : E r ∨ ∃ b, d = .settled b) : Watched view d (stop r : Traced ε ρ β) Q E :=
  ⟨fun b hb => by simp at hb, fun r' hr => by
    obtain rfl := Except.error.inj hr
    exact h.imp id fun ⟨b, hb⟩ => ⟨b, congrArg some hb⟩⟩

theorem bind (hx : Watched view d x Q E) (hf : ∀ b d', Q b d' → Watched view d' (f b) R E) :
    Watched view d (x >>= f) R E := by
  rcases hres : x.result with r | b
  · rw [bind_of_error hres]
    exact ⟨fun c hc => by simp at hc, fun r' hr => by
      obtain rfl := Except.error.inj hr
      exact hx.error _ hres⟩
  · rw [bind_of_ok hres]
    obtain ⟨d', hd', hQ⟩ := hx.ok b hres
    have hf' := hf b d' hQ
    -- the detector goes on where the first part left it
    have hrun : d.run ((x.events ++ (f b).events).filterMap view) =
        d'.run ((f b).events.filterMap view) := by
      rw [List.filterMap_append, Detector.run_append, hd', Option.bind_some]
    refine ⟨fun c hc => ?_, fun r hr => ?_⟩
    · rw [hrun]
      exact hf'.ok c hc
    · rw [hrun]
      exact hf'.error r hr

theorem mono (hx : Watched view d x Q E) (hQ : ∀ b d', Q b d' → Q' b d')
    (hE : ∀ r, E r → E' r) : Watched view d x Q' E' :=
  ⟨fun b hb => (hx.ok b hb).imp fun d' h => ⟨h.1, hQ b d' h.2⟩,
    fun r hr => (hx.error r hr).imp (hE r) id⟩

/-- An event that the detector does not see. -/
theorem emit_silent {Q : PUnit → Detector α → Prop} (h : view e = none) (hQ : Q ⟨⟩ d) :
    Watched view d (emit e : Traced ε ρ PUnit) Q E :=
  ⟨fun _ _ => ⟨d, by simp [h], hQ⟩, fun r hr => by simp at hr⟩

/-- An event that the detector sees. -/
theorem emit {o : Observation α} {Q : PUnit → Detector α → Prop} (h : view e = some o)
    (hd : d.step o = some d') (hQ : Q ⟨⟩ d') :
    Watched view d (emit e : Traced ε ρ PUnit) Q E :=
  ⟨fun _ _ => ⟨d', by simp [h, hd], hQ⟩, fun r hr => by simp at hr⟩

theorem emit_bind_silent {f : PUnit → Traced ε ρ γ} (h : view e = none)
    (hf : Watched view d (f ⟨⟩) R E) : Watched view d (Traced.emit e >>= f) R E :=
  bind (Q := fun _ d' => d' = d) (emit_silent h rfl) fun _ _ hd => hd ▸ hf

theorem emit_bind {o : Observation α} {f : PUnit → Traced ε ρ γ} (h : view e = some o)
    (hd : d.step o = some d') (hf : Watched view d' (f ⟨⟩) R E) :
    Watched view d (Traced.emit e >>= f) R E :=
  bind (Q := fun _ d₁ => d₁ = d') (emit h hd rfl) fun _ _ hd => hd ▸ hf

theorem check_bind {c : Prop} [Decidable c] {f : PUnit → Traced ε ρ γ}
    (hf : c → Watched view d (f ⟨⟩) R E) (hr : ¬ c → E r ∨ ∃ b, d = .settled b) :
    Watched view d (check r c >>= f) R E := by
  unfold check
  split_ifs with hc
  · rw [pure_bind']
    exact hf hc
  · exact stop (hr hc)

theorem check {c : Prop} [Decidable c] {Q : PUnit → Detector α → Prop} (h : c → Q ⟨⟩ d)
    (hr : ¬ c → E r ∨ ∃ b, d = .settled b) :
    Watched view d (Traced.check r c : Traced ε ρ PUnit) Q E := by
  unfold Traced.check
  split_ifs with hc
  · exact pure (h hc)
  · exact stop (hr hc)

theorem orStop_bind {o : Option β} (hf : ∀ b, o = some b → Watched view d (f b) R E)
    (hr : o = none → E r ∨ ∃ b, d = .settled b) : Watched view d (orStop r o >>= f) R E := by
  cases o with
  | none => exact stop (hr rfl)
  | some b =>
    rw [orStop, pure_bind']
    exact hf b rfl

theorem rename {view : ε' → Option (Observation α)} {g : ε → ε'} {h : ρ → ρ'} {E : ρ' → Prop}
    (hx : Watched (fun e => view (g e)) d x Q fun r => E (h r)) :
    Watched view d (x.rename g h) Q E := by
  have hevents : (x.rename g h).events.filterMap view =
      x.events.filterMap fun e => view (g e) := by
    rw [events_rename, List.filterMap_map]
    rfl
  refine ⟨fun b hb => ?_, fun r' hr => ?_⟩
  · rw [hevents]
    exact hx.ok b (result_rename_ok.mp hb)
  · rw [hevents]
    rcases hres : x.result with r | b
    · simp only [Traced.rename, hres, Except.mapError, Except.error.injEq] at hr
      exact hr ▸ hx.error r hres
    · simp [Traced.rename, hres, Except.mapError] at hr

/-- A computation of which the detector sees nothing. -/
theorem of_silent {Q : β → Prop} (hx : x.Emits fun e => view e = none)
    (hQ : x.Yields Q fun _ => True) {b : Option α} :
    Watched view (.settled b) x (fun c d' => Q c ∧ d' = .settled b) E := by
  have hrun : x.events.filterMap view = [] := List.filterMap_eq_nil_iff.mpr hx
  refine ⟨fun c hc => ⟨_, by rw [hrun]; rfl, hQ.ok c hc, rfl⟩, fun r _ => .inr ⟨b, ?_⟩⟩
  rw [hrun]
  rfl

/-- A run of steps that keep a relation between the state and the detector. -/
theorem run {step : σ → ι → Traced ε ρ σ} {I : σ → Detector α → Prop} {is : List ι}
    (keep : ∀ s d, ∀ i ∈ is, I s d → Watched view d (step s i) I E) {s : σ} (h : I s d) :
    Watched view d (Traced.run step s is) I E := by
  induction is generalizing s d with
  | nil => exact pure h
  | cons i is ih =>
    exact bind (keep s d i List.mem_cons_self h) fun s' d' hs' =>
      ih (fun s d j hj => keep s d j (List.mem_cons_of_mem _ hj)) hs'

end Watched

end Traced

end EdgeSentinel.Trace
