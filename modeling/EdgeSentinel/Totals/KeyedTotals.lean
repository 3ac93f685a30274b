import Mathlib.Algebra.BigOperators.Group.List.Basic
import Mathlib.Algebra.BigOperators.Group.Multiset.Basic
import Mathlib.Algebra.Order.BigOperators.Group.List
import Mathlib.Algebra.Order.Group.MinMax

/-!
# Totals over keys

Items have a key and a value each, and a program adds up the values of those items whose key is
selected.

## The model

* `totalOf key value selected items` — the total of the selected items.

## What is proved

* `totalOf_perm` — it does not depend on the order of the items.
* `totalOf_eq_sum` — where the selected keys are those of a list without repetitions, it is the
  sum of the totals of these keys, each on its own.
* `sum_max_eq_iff` — cutting differences at zero commutes with adding them up **if and only
  if** no two of them point in opposite directions.
-/

namespace EdgeSentinel.Totals

section Keys

variable {κ β M : Type*} [AddCommMonoid M] {key : β → κ} {value : β → M}
  {selected selected' : κ → Prop} [DecidablePred selected] [DecidablePred selected']
  {items items' : List β}

/-- The total of the items whose key is selected. -/
def totalOf (key : β → κ) (value : β → M) (selected : κ → Prop) [DecidablePred selected]
    (items : List β) : M :=
  ((items.filter fun item => selected (key item)).map value).sum

@[simp] theorem totalOf_nil : totalOf key value selected [] = 0 := rfl

theorem totalOf_cons (item : β) (items : List β) : totalOf key value selected (item :: items) =
    (if selected (key item) then value item else 0) + totalOf key value selected items := by
  unfold totalOf
  by_cases h : selected (key item)
  · rw [List.filter_cons_of_pos (by simpa using h), List.map_cons, List.sum_cons, if_pos h]
  · rw [List.filter_cons_of_neg (by simpa using h), if_neg h, zero_add]

/-- The order of the items makes no difference. -/
theorem totalOf_perm (h : items.Perm items') :
    totalOf key value selected items = totalOf key value selected items' :=
  ((h.filter _).map value).sum_eq

theorem totalOf_congr (h : ∀ item ∈ items, selected (key item) ↔ selected' (key item)) :
    totalOf key value selected items = totalOf key value selected' items := by
  unfold totalOf
  rw [List.filter_congr fun item hitem => decide_eq_decide.mpr (h item hitem)]

/-- A value counts once for one of the keys. -/
theorem sum_map_ite_eq [DecidableEq κ] {keys : List κ} (hkeys : keys.Nodup) (k : κ) (v : M) :
    (keys.map fun k' => if k = k' then v else 0).sum = if k ∈ keys then v else 0 := by
  induction keys with
  | nil => rfl
  | cons k' keys ih =>
    obtain ⟨hk', hkeys⟩ := List.nodup_cons.mp hkeys
    rw [List.map_cons, List.sum_cons, ih hkeys]
    by_cases hk : k = k'
    · subst hk
      rw [if_pos rfl, if_neg hk', add_zero, if_pos List.mem_cons_self]
    · simp only [if_neg hk, zero_add, List.mem_cons, or_iff_right hk]

/-- **The total** is the sum of the totals of its keys. -/
theorem totalOf_eq_sum [DecidableEq κ] {keys : List κ} (hkeys : keys.Nodup)
    (h : ∀ item ∈ items, selected (key item) ↔ key item ∈ keys) :
    totalOf key value selected items =
      (keys.map fun k => totalOf key value (· = k) items).sum := by
  induction items with
  | nil => simp
  | cons item items ih =>
    rw [List.forall_mem_cons] at h
    simp only [totalOf_cons]
    rw [List.sum_map_add, ← ih h.2, sum_map_ite_eq hkeys]
    simp only [h.1]

end Keys

section Differences

/-- The differences of two totals add up to the difference of the totals. -/
theorem sum_map_sub {κ G : Type*} [AddCommGroup G] (f g : κ → G) (keys : List κ) :
    (keys.map fun k => f k - g k).sum = (keys.map f).sum - (keys.map g).sum := by
  have h := Multiset.sum_map_sub (m := (keys : Multiset κ)) (f := f) (g := g)
  simpa only [Multiset.map_coe, Multiset.sum_coe] using h

variable {G : Type*} [AddCommGroup G] [LinearOrder G] [IsOrderedAddMonoid G]

/-- Where no part is negative, all of them are zero if their sum is. -/
theorem sum_map_eq_zero_iff {f : G → G} (hf : ∀ a, 0 ≤ f a) (differences : List G) :
    0 ≤ (differences.map f).sum ∧
      ((differences.map f).sum = 0 ↔ ∀ a ∈ differences, f a = 0) := by
  induction differences with
  | nil => simp
  | cons a differences ih =>
    rw [List.map_cons, List.sum_cons, add_eq_zero_iff_of_nonneg (hf a) ih.1, ih.2,
      List.forall_mem_cons]
    exact ⟨add_nonneg (hf a) ih.1, Iff.rfl⟩

/-- A sum is what its terms add to it, less what they take away. -/
theorem sum_eq_sum_max_sub (differences : List G) : differences.sum =
    (differences.map fun a => max a 0).sum - (differences.map fun a => max (-a) 0).sum := by
  rw [← sum_map_sub]
  simp only [max_zero_sub_max_neg_zero_eq_self, List.map_id']

/-- **Cutting at zero** commutes with adding up exactly if the differences do not point in
opposite directions. -/
theorem sum_max_eq_iff (differences : List G) :
    (differences.map fun a => max a 0).sum = max differences.sum 0 ↔
      (∀ a ∈ differences, 0 ≤ a) ∨ ∀ a ∈ differences, a ≤ 0 := by
  obtain ⟨hup, hup_zero⟩ := sum_map_eq_zero_iff (fun a : G => le_max_right a 0) differences
  obtain ⟨hdown, hdown_zero⟩ := sum_map_eq_zero_iff (fun a : G => le_max_right (-a) 0) differences
  have hparts := sum_eq_sum_max_sub differences
  simp only [max_eq_right_iff, neg_nonpos] at hup_zero hdown_zero
  rw [← hup_zero, ← hdown_zero, hparts]
  generalize (differences.map fun a => max a 0).sum = up at hup ⊢
  generalize (differences.map fun a => max (-a) 0).sum = down at hdown ⊢
  constructor
  · intro h
    rcases le_total (up - down) 0 with hle | hle
    · rw [max_eq_right hle] at h
      exact .inr h
    · rw [max_eq_left hle] at h
      exact .inl (sub_eq_self.mp h.symm)
  · rintro (rfl | rfl)
    · rw [sub_zero, max_eq_left hup]
    · rw [zero_sub, max_eq_right (neg_nonpos.mpr hdown)]

end Differences

end EdgeSentinel.Totals
