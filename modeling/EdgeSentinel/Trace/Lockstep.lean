import EdgeSentinel.Trace.Traced

/-!
# Computations in lockstep

Two computations that cannot be told apart through a `view` of their events: they show
the same, and return related values or stop for the same reason. For some reasons one of
the two may stop alone; then it has shown the beginning of what the other one shows.

There is one rule for each way to build a computation, as for `Yields`, and `Lockstep.run`
for runs over the same inputs, where the relation may speak of the inputs still to come.
-/

namespace EdgeSentinel.Trace.Traced

universe u v w

variable {ε ε₁ δ : Type u} {ρ ρ₁ : Type v} {α α' β β' σ : Type w} {ι : Type*}

/-- What a computation shows. -/
def shown (view : ε → Option δ) (x : Traced ε ρ α) : List δ := x.events.filterMap view

/-- What a computation in two parts shows. -/
theorem shown_bind_of_ok {view : ε → Option δ} {x : Traced ε ρ α} {f : α → Traced ε ρ β} {a : α}
    (h : x.result = .ok a) : (x >>= f).shown view = x.shown view ++ (f a).shown view := by
  rw [bind_of_ok h, shown, List.filterMap_append]
  rfl

/-- A computation that emits only what is hidden shows nothing. -/
theorem shown_of_hidden {view : ε → Option δ} {x : Traced ε ρ α}
    (h : x.Emits fun e => view e = none) : x.shown view = [] :=
  List.filterMap_eq_nil_iff.mpr h

/-- A second part that shows nothing adds nothing. -/
theorem shown_bind_of_hidden {view : ε → Option δ} {f : α → Traced ε ρ β}
    (h : ∀ a, (f a).Emits fun e => view e = none) (x : Traced ε ρ α) :
    (x >>= f).shown view = x.shown view := by
  rcases hx : x.result with r | a
  · rw [bind_of_error hx]
    rfl
  · rw [shown_bind_of_ok hx, shown_of_hidden (h a), List.append_nil]

/-- What a run shows of its first step and of the others. -/
theorem shown_run_cons {view : ε → Option δ} (step : σ → ι → Traced ε ρ σ) (s : σ) (i : ι)
    (is : List ι) : (run step s (i :: is)).shown view = (step s i).shown view ++
      match (step s i).result with
      | .ok s' => (run step s' is).shown view
      | .error _ => [] := by
  rcases hs : (step s i).result with r | s'
  · rw [run, bind_of_error hs, List.append_nil]
    rfl
  · rw [run, shown_bind_of_ok hs]

/-- What a run shows is what its steps show. -/
theorem shown_run {view : ε → Option δ} (step : σ → ι → Traced ε ρ σ) (s : σ) (is : List ι) :
    (run step s is).shown view = (taken step s is).flatMap fun c => (step c.1 c.2).shown view := by
  induction is generalizing s with
  | nil => rfl
  | cons i is ih =>
    rw [shown_run_cons, taken, List.flatMap_cons]
    rcases (step s i).result with r | s'
    · rfl
    · dsimp only
      rw [ih]

/-- A computation that shows nothing where it stops. -/
def ShowsAtEnd (view : ε → Option δ) (x : Traced ε ρ α) : Prop :=
  ∀ r, x.result = .error r → x.shown view = []

namespace ShowsAtEnd

variable {view : ε → Option δ} {x : Traced ε ρ α} {f : α → Traced ε ρ β}

theorem of_hidden (h : x.Emits fun e => view e = none) : x.ShowsAtEnd view := fun _ _ =>
  shown_of_hidden h

theorem bind (hx : x.Emits fun e => view e = none) (hf : ∀ a, (f a).ShowsAtEnd view) :
    (x >>= f).ShowsAtEnd view := by
  intro r hr
  rcases hres : x.result with r' | a
  · rw [bind_of_error hres]
    exact shown_of_hidden hx
  · rw [shown_bind_of_ok hres, shown_of_hidden hx, List.nil_append]
    rw [bind_of_ok hres] at hr
    exact hf a r hr

theorem bind_returns (hx : x.ShowsAtEnd view) (hf : ∀ a, ∃ b, (f a).result = .ok b) :
    (x >>= f).ShowsAtEnd view := by
  intro r hr
  rcases hres : x.result with r' | a
  · rw [bind_of_error hres]
    exact hx r' hres
  · obtain ⟨b, hb⟩ := hf a
    rw [bind_of_ok hres] at hr
    cases hb.symm.trans hr

theorem orStop_bind {r : ρ} {o : Option α} (hf : ∀ a, (f a).ShowsAtEnd view) :
    (orStop r o >>= f).ShowsAtEnd view :=
  bind .orStop hf

theorem rename {view : ε₁ → Option δ} {g : ε → ε₁} {h : ρ → ρ₁}
    (hx : x.ShowsAtEnd fun e => view (g e)) : (x.rename g h).ShowsAtEnd view := by
  intro r hr
  rcases hres : x.result with r' | a
  · rw [shown, events_rename, List.filterMap_map]
    exact hx r' hres
  · simp [Traced.rename, hres, Except.mapError] at hr

end ShowsAtEnd

/-- Two computations in lockstep. -/
inductive Lockstep (view : ε → Option δ) (R : α → α' → Prop) (E : ρ → Prop) (x : Traced ε ρ α)
    (y : Traced ε ρ α') : Prop where
  /-- Both return. -/
  | both {a : α} {a' : α'} (hx : x.result = .ok a) (hy : y.result = .ok a') (h : R a a')
    (hview : x.shown view = y.shown view)
  /-- Both stop. -/
  | stop {r : ρ} (hx : x.result = .error r) (hy : y.result = .error r)
    (hview : x.shown view = y.shown view)
  /-- The first one stops alone. -/
  | left {r : ρ} (hr : E r) (hx : x.result = .error r) (hview : x.shown view <+: y.shown view)
  /-- The second one stops alone. -/
  | right {r : ρ} (hr : E r) (hy : y.result = .error r) (hview : y.shown view <+: x.shown view)

namespace Lockstep

variable {view : ε → Option δ} {R R' : α → α' → Prop} {S : β → β' → Prop} {E : ρ → Prop}
  {x : Traced ε ρ α} {y : Traced ε ρ α'} {f : α → Traced ε ρ β} {g : α' → Traced ε ρ β'}
  {a : α} {a' : α'} {r : ρ} {e e' : ε}

theorem pure (h : R a a') :
    Lockstep view R E (pure a : Traced ε ρ α) (pure a' : Traced ε ρ α') :=
  .both rfl rfl h rfl

/-- The same computation. -/
theorem refl {R : α → α → Prop} (h : ∀ a, R a a) (x : Traced ε ρ α) : Lockstep view R E x x := by
  rcases hx : x.result with r | a
  · exact .stop hx hx rfl
  · exact .both hx hx (h a) rfl

theorem mono (hxy : Lockstep view R E x y) (h : ∀ a a', R a a' → R' a a') :
    Lockstep view R' E x y := by
  cases hxy with
  | both hx hy hR hview => exact .both hx hy (h _ _ hR) hview
  | stop hx hy hview => exact .stop hx hy hview
  | left hr hx hview => exact .left hr hx hview
  | right hr hy hview => exact .right hr hy hview

/-- What is known of the two values, each on its own. -/
theorem and_yields {Q : α → Prop} {Q' : α' → Prop} (hxy : Lockstep view R E x y)
    (hx : x.Yields Q fun _ => True) (hy : y.Yields Q' fun _ => True) :
    Lockstep view (fun a a' => R a a' ∧ Q a ∧ Q' a') E x y := by
  cases hxy with
  | both hxr hyr hR hview => exact .both hxr hyr ⟨hR, hx.ok _ hxr, hy.ok _ hyr⟩ hview
  | stop hxr hyr hview => exact .stop hxr hyr hview
  | left hr hxr hview => exact .left hr hxr hview
  | right hr hyr hview => exact .right hr hyr hview

/-- What is shown by a computation in two parts begins with what the first part shows. -/
theorem shown_prefix_bind (x : Traced ε ρ α) (f : α → Traced ε ρ β) :
    x.shown view <+: (x >>= f).shown view := by
  rcases hx : x.result with r | a
  · rw [bind_of_error hx]
    exact List.prefix_rfl
  · rw [bind_of_ok hx, shown, shown, List.filterMap_append]
    exact List.prefix_append _ _

theorem bind (hxy : Lockstep view R E x y) (hfg : ∀ a a', R a a' → Lockstep view S E (f a) (g a')) :
    Lockstep view S E (x >>= f) (y >>= g) := by
  have hstop : ∀ {r : ρ}, x.result = .error r → (x >>= f).shown view = x.shown view := by
    intro r hx
    rw [bind_of_error hx]
    rfl
  have hstop' : ∀ {r : ρ}, y.result = .error r → (y >>= g).shown view = y.shown view := by
    intro r hy
    rw [bind_of_error hy]
    rfl
  cases hxy with
  | both hx hy hR hview =>
    have hl : ∀ {γ : Type w} (z : Traced ε ρ γ), (⟨x.events ++ z.events, z.result⟩ :
        Traced ε ρ γ).shown view = x.shown view ++ z.shown view := fun z =>
      List.filterMap_append
    have hr : ∀ {γ : Type w} (z : Traced ε ρ γ), (⟨y.events ++ z.events, z.result⟩ :
        Traced ε ρ γ).shown view = y.shown view ++ z.shown view := fun z =>
      List.filterMap_append
    rw [bind_of_ok hx, bind_of_ok hy]
    cases hfg _ _ hR with
    | both hf hg hS hview' => exact .both hf hg hS (by rw [hl, hr, hview, hview'])
    | stop hf hg hview' => exact .stop hf hg (by rw [hl, hr, hview, hview'])
    | left hE hf hview' =>
      refine .left hE hf ?_
      rw [hl, hr, hview]
      exact (List.prefix_append_right_inj _).mpr hview'
    | right hE hg hview' =>
      refine .right hE hg ?_
      rw [hl, hr, hview]
      exact (List.prefix_append_right_inj _).mpr hview'
  | stop hx hy hview =>
    refine .stop (r := _) (by rw [bind_of_error hx]) (by rw [bind_of_error hy]) ?_
    rw [hstop hx, hstop' hy, hview]
  | left hr hx hview =>
    refine .left hr (by rw [bind_of_error hx]) ?_
    rw [hstop hx]
    exact hview.trans (shown_prefix_bind _ _)
  | right hr hy hview =>
    refine .right hr (by rw [bind_of_error hy]) ?_
    rw [hstop' hy]
    exact hview.trans (shown_prefix_bind _ _)

theorem emit_bind {f : PUnit → Traced ε ρ β} {g : PUnit → Traced ε ρ β'} (h : view e = view e')
    (hfg : Lockstep view S E (f ⟨⟩) (g ⟨⟩)) :
    Lockstep view S E (Traced.emit e >>= f) (Traced.emit e' >>= g) :=
  bind (R := fun _ _ => True) (.both rfl rfl trivial (by simp [shown, List.filterMap_cons, h]))
    fun _ _ _ => hfg

theorem check_bind {c c' : Prop} [Decidable c] [Decidable c'] {f : PUnit → Traced ε ρ β}
    {g : PUnit → Traced ε ρ β'} (h : c ↔ c') (hfg : c → Lockstep view S E (f ⟨⟩) (g ⟨⟩)) :
    Lockstep view S E (check r c >>= f) (check r c' >>= g) := by
  unfold check
  by_cases hc : c
  · rw [if_pos hc, if_pos (h.mp hc)]
    exact hfg hc
  · rw [if_neg hc, if_neg fun h' => hc (h.mpr h')]
    exact .stop rfl rfl rfl

theorem orStop_bind {o : Option α} {g : α → Traced ε ρ β'}
    (hfg : ∀ a, o = some a → Lockstep view S E (f a) (g a)) :
    Lockstep view S E (orStop r o >>= f) (orStop r o >>= g) := by
  cases o with
  | none => exact .stop rfl rfl rfl
  | some a => exact hfg a rfl

/-- Two computations that show nothing, and stop only for reasons for which they may. -/
theorem hidden {Q : α → Prop} {Q' : α' → Prop} (hx : x.Emits fun e => view e = none)
    (hQ : x.Yields Q E) (hy : y.Emits fun e => view e = none) (hQ' : y.Yields Q' E)
    (h : ∀ a a', Q a → Q' a' → R a a') : Lockstep view R E x y := by
  have hx : x.shown view = [] := shown_of_hidden hx
  have hy : y.shown view = [] := shown_of_hidden hy
  rcases hxr : x.result with r | a
  · exact .left (hQ.error r hxr) hxr (by rw [hx]; exact List.nil_prefix)
  · rcases hyr : y.result with r | a'
    · exact .right (hQ'.error r hyr) hyr (by rw [hy]; exact List.nil_prefix)
    · exact .both hxr hyr (h a a' (hQ.ok a hxr) (hQ'.ok a' hyr)) (hx.trans hy.symm)

theorem rename {view : ε₁ → Option δ} {E : ρ₁ → Prop} {g : ε → ε₁} {h : ρ → ρ₁}
    (hxy : Lockstep (fun e => view (g e)) R (fun r => E (h r)) x y) :
    Lockstep view R E (x.rename g h) (y.rename g h) := by
  have hshown : ∀ {γ : Type w} (z : Traced ε ρ γ),
      (z.rename g h).shown view = z.shown fun e => view (g e) := by
    intro γ z
    rw [shown, shown, events_rename, List.filterMap_map]
    rfl
  have hok : ∀ {γ : Type w} {z : Traced ε ρ γ} {c : γ}, z.result = .ok c →
      (z.rename g h).result = .ok c := fun hz => result_rename_ok.mpr hz
  have herror : ∀ {γ : Type w} {z : Traced ε ρ γ} {r : ρ}, z.result = .error r →
      (z.rename g h).result = .error (h r) := fun hz => by
    simp [Traced.rename, hz, Except.mapError]
  cases hxy with
  | both hx hy hR hview =>
    exact .both (hok hx) (hok hy) hR (by rw [hshown, hshown, hview])
  | stop hx hy hview =>
    exact .stop (herror hx) (herror hy) (by rw [hshown, hshown, hview])
  | left hr hx hview =>
    exact .left hr (herror hx) (by rw [hshown, hshown]; exact hview)
  | right hr hy hview =>
    exact .right hr (herror hy) (by rw [hshown, hshown]; exact hview)

/-- Runs over the same inputs, with a relation that may speak of the inputs still to come. -/
theorem run {step step' : σ → ι → Traced ε ρ σ} {R : List ι → σ → σ → Prop}
    (keep : ∀ i is s s', R (i :: is) s s' → Lockstep view (R is) E (step s i) (step' s' i))
    {is : List ι} {s s' : σ} (h : R is s s') :
    Lockstep view (R []) E (Traced.run step s is) (Traced.run step' s' is) := by
  induction is generalizing s s' with
  | nil => exact pure h
  | cons i is ih => exact bind (keep i is s s' h) fun _ _ h' => ih h'

end Lockstep

end EdgeSentinel.Trace.Traced
