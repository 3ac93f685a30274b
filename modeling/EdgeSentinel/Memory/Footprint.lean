import Mathlib.Data.List.Perm.Basic
import Mathlib.Tactic.Common

/-!
# The order of writes

A memory has locations, and each of them holds something. A step writes to some of the
locations. What it leaves in one of these may depend on what was there before, and on nothing
else in the memory (`Footprint`).

So the order of some steps does not matter for a location that no two of them write to
(`Footprint.get_foldl_perm`).
-/

namespace EdgeSentinel.Memory

variable {σ α κ : Type*} {β : κ → Type*}

/-- The steps write to the locations of their footprints only, and there each looks at what is in
the location only. -/
structure Footprint (get : σ → ∀ k : κ, β k) (step : σ → α → σ) (Writes : α → κ → Prop) :
    Prop where
  /-- What is in another location stays. -/
  frame : ∀ {s a k}, ¬ Writes a k → get (step s a) k = get s k
  /-- What is left in a location depends on what was there. -/
  depends : ∀ {s s' a k}, Writes a k → get s' k = get s k → get (step s' a) k = get (step s a) k

/-- No two of the steps write to the location. -/
def OneWriter (Writes : α → κ → Prop) (k : κ) (as : List α) : Prop :=
  as.Pairwise fun a b => ¬ (Writes a k ∧ Writes b k)

theorem OneWriter.perm {Writes : α → κ → Prop} {k : κ} {as bs : List α}
    (h : OneWriter Writes k as) (hperm : as.Perm bs) : OneWriter Writes k bs :=
  (hperm.pairwise_iff fun hab hba => hab hba.symm).mp h

variable {get : σ → ∀ k : κ, β k} {step : σ → α → σ} {Writes : α → κ → Prop} {k : κ} {s s' : σ}

namespace Footprint

variable (h : Footprint get step Writes)

include h

/-- A step makes the same of the same. -/
theorem get_step (a : α) (hs : get s' k = get s k) : get (step s' a) k = get (step s a) k := by
  by_cases hw : Writes a k
  · exact h.depends hw hs
  · rw [h.frame hw, h.frame hw, hs]

/-- So do some steps. -/
theorem get_foldl (as : List α) (hs : get s' k = get s k) :
    get (as.foldl step s') k = get (as.foldl step s) k := by
  induction as generalizing s s' with
  | nil => exact hs
  | cons a as ih => exact ih (h.get_step a hs)

/-- Two steps that do not both write to a location can be exchanged. -/
theorem get_step_step {a b : α} (hab : ¬ (Writes a k ∧ Writes b k))
    (hs : get s' k = get s k) : get (step (step s' b) a) k = get (step (step s a) b) k := by
  by_cases ha : Writes a k
  · have hb : ¬ Writes b k := fun hb => hab ⟨ha, hb⟩
    rw [h.frame hb]
    refine h.depends ha ?_
    rw [h.frame hb, hs]
  · rw [h.frame ha]
    refine h.get_step b ?_
    rw [h.frame ha, hs]

/-- **The order of the steps** does not matter for a location that no two of them write to. -/
theorem get_foldl_perm {as bs : List α} (hperm : as.Perm bs) (hone : OneWriter Writes k as)
    (hs : get s' k = get s k) : get (bs.foldl step s') k = get (as.foldl step s) k := by
  induction hperm generalizing s s' with
  | nil => exact hs
  | cons a _ ih => exact ih (List.pairwise_cons.mp hone).2 (h.get_step a hs)
  | swap a b as =>
    obtain ⟨hb, hone⟩ := List.pairwise_cons.mp hone
    have hswap := h.get_step_step (hb a List.mem_cons_self) hs
    exact h.get_foldl as hswap
  | trans hab _ ih₁ ih₂ => exact (ih₂ (hone.perm hab) hs).trans (ih₁ hone rfl)

end Footprint

end EdgeSentinel.Memory
