import EdgeSentinel.Trace.Lockstep

/-!
# What one view shows, computed from another

A trace may answer itself: some of its events are requests, seen through one view, and others are
what is done about them, seen through a second one. `Derives` says that what the second view shows
is computed from what the first one shows, item by item and in order: nothing is done twice,
forgotten, or done of its own accord. This holds also of a computation that stops in the middle.

There is one rule for each way to build a computation, as for `Yields` and `Emits`.
-/

namespace EdgeSentinel.Trace.Traced

universe u v w

variable {ε ε₁ δ δ' : Type u} {ρ ρ₁ : Type v} {α β σ : Type w} {ι : Type*}

/-- What `view'` shows of the computation is computed by `f` from what `view` shows. -/
def Derives (view : ε → Option δ) (view' : ε → Option δ') (f : δ → Option δ')
    (x : Traced ε ρ α) : Prop :=
  x.shown view' = (x.shown view).filterMap f

namespace Derives

variable {view : ε → Option δ} {view' : ε → Option δ'} {f : δ → Option δ'} {x : Traced ε ρ α}
  {g : α → Traced ε ρ β} {r : ρ}

/-- A computation of which both views show nothing. -/
theorem of_hidden (h : x.Emits fun e => view e = none) (h' : x.Emits fun e => view' e = none) :
    x.Derives view view' f := by
  rw [Derives, shown_of_hidden h, shown_of_hidden h', List.filterMap_nil]

theorem pure {a : α} : (pure a : Traced ε ρ α).Derives view view' f := of_hidden .pure .pure

theorem bind (hx : x.Derives view view' f)
    (hg : ∀ a, x.result = .ok a → (g a).Derives view view' f) :
    (x >>= g).Derives view view' f := by
  rcases hres : x.result with r | a
  · rw [bind_of_error hres]
    exact hx
  · have hga := hg a hres
    unfold Derives at hx hga ⊢
    rw [shown_bind_of_ok hres, shown_bind_of_ok hres, List.filterMap_append, ← hx, ← hga]

theorem emit_bind {e : ε} {g : PUnit → Traced ε ρ β} (h : view e = none) (h' : view' e = none)
    (hg : (g ⟨⟩).Derives view view' f) : (emit e >>= g).Derives view view' f :=
  bind (of_hidden (.emit h) (.emit h')) fun _ _ => hg

theorem check_bind {c : Prop} [Decidable c] {g : PUnit → Traced ε ρ β}
    (hg : c → (g ⟨⟩).Derives view view' f) : (check r c >>= g).Derives view view' f :=
  bind (of_hidden .check .check) fun _ h => hg (result_check_ok.mp h)

theorem orStop_bind {o : Option α} (hg : ∀ a, o = some a → (g a).Derives view view' f) :
    (orStop r o >>= g).Derives view view' f :=
  bind (of_hidden .orStop .orStop) fun a h => hg a (result_orStop_ok.mp h)

/-- Events renamed: the views see the new names. -/
theorem rename {view : ε₁ → Option δ} {view' : ε₁ → Option δ'} {h : ε → ε₁} {k : ρ → ρ₁}
    (hx : x.Derives (fun e => view (h e)) (fun e => view' (h e)) f) :
    (x.rename h k).Derives view view' f := by
  unfold Derives shown at hx ⊢
  rw [events_rename, List.filterMap_map, List.filterMap_map]
  exact hx

/-- A run of steps under an invariant. -/
theorem run {step : σ → ι → Traced ε ρ σ} {I : σ → Prop}
    (keep : ∀ s i s', I s → (step s i).result = .ok s' → I s')
    (h : ∀ s i, I s → (step s i).Derives view view' f) {s : σ} (hs : I s) (is : List ι) :
    (Traced.run step s is).Derives view view' f := by
  induction is generalizing s with
  | nil => exact pure
  | cons i is ih => exact bind (h s i hs) fun s' hs' => ih (keep s i s' hs hs')

end Derives

end EdgeSentinel.Trace.Traced
