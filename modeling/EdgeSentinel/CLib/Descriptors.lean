import Mathlib.Data.List.Basic
import Mathlib.Logic.Function.Basic
import Mathlib.Tactic.Common
import Mathlib.Tactic.SplitIfs

/-!
# File descriptors

The table of the descriptors that a process has open, and the system calls that change it. A new
descriptor is always the lowest one that is free.

## What is proved

* `file_lowestFree`, `lowestFree_le` — what the lowest free descriptor is.
* `file_dup2` — what `dup2` does; a descriptor that is copied to itself stays.
-/

namespace EdgeSentinel.CLib

universe u v

/-- The descriptors of a process. -/
@[ext]
structure Descriptors (α : Type u) where
  /-- The file that is open under a descriptor. -/
  file : ℕ → Option α
  /-- A bound on the descriptors. -/
  bound : ℕ
  /-- From there on none is open. -/
  file_of_bound_le : ∀ d, bound ≤ d → file d = none

namespace Descriptors

variable {α : Type u} {β : Type v} (t : Descriptors α) {d e : ℕ}

/-- No descriptor is open. -/
def empty : Descriptors α where
  file _ := none
  bound := 0
  file_of_bound_le _ _ := rfl

/-- The lowest descriptor that is free. -/
def lowestFree : ℕ := ((List.range t.bound).find? fun d => (t.file d).isNone).getD t.bound

theorem file_lowestFree : t.file t.lowestFree = none := by
  unfold lowestFree
  cases h : (List.range t.bound).find? fun d => (t.file d).isNone with
  | none => exact t.file_of_bound_le _ (Nat.le_refl _)
  | some d =>
    rw [List.find?_range_eq_some] at h
    simpa using h.1

theorem lowestFree_le (h : t.file d = none) : t.lowestFree ≤ d := by
  unfold lowestFree
  cases hfind : (List.range t.bound).find? fun d => (t.file d).isNone with
  | none =>
    rw [List.find?_range_eq_none] at hfind
    refine Nat.le_of_not_lt fun hlt => ?_
    simpa [h] using hfind d hlt
  | some e =>
    rw [List.find?_range_eq_some] at hfind
    refine Nat.le_of_not_lt fun hlt => ?_
    simpa [h] using hfind.2.2 d hlt

/-- A descriptor stands for a file from now on, or for none. -/
def set (d : ℕ) (file : Option α) : Descriptors α where
  file := Function.update t.file d file
  bound := max t.bound (d + 1)
  file_of_bound_le e he := by
    rw [Nat.max_le] at he
    rw [Function.update_of_ne (by omega), t.file_of_bound_le e he.1]

@[simp] theorem file_set (d : ℕ) (file : Option α) :
    (t.set d file).file = Function.update t.file d file := rfl

/-- A file is opened. -/
def alloc (file : α) : ℕ × Descriptors α := (t.lowestFree, t.set t.lowestFree (some file))

/-- `close`. -/
def close (d : ℕ) : Descriptors α := t.set d none

@[simp] theorem file_close (d : ℕ) : (t.close d).file = Function.update t.file d none := rfl

/-- `dup2(d, e)`, unless `d` is not open. -/
def dup2 (d e : ℕ) : Option (Descriptors α) :=
  match t.file d with
  | none => none
  | some file => if d = e then some t else some (t.set e (some file))

/-- **`dup2`**: the other descriptor stands for the same file. -/
theorem file_dup2 {t' : Descriptors α} {file : α} (hd : t.file d = some file)
    (h : t.dup2 d e = some t') : t'.file = Function.update t.file e (some file) := by
  unfold dup2 at h
  rw [hd] at h
  dsimp only at h
  split_ifs at h with he
  · obtain rfl := Option.some.inj h
    rw [← he, ← hd, Function.update_eq_self]
  · obtain rfl := Option.some.inj h
    rfl

/-- The same descriptors, with the files seen through a function. -/
def map (f : α → β) : Descriptors β where
  file d := (t.file d).map f
  bound := t.bound
  file_of_bound_le d hd := by rw [t.file_of_bound_le d hd, Option.map_none]

@[simp] theorem file_map (f : α → β) (d : ℕ) : (t.map f).file d = (t.file d).map f := rfl

@[simp] theorem lowestFree_map (f : α → β) : (t.map f).lowestFree = t.lowestFree := by
  simp [lowestFree, map]

end Descriptors

end EdgeSentinel.CLib
