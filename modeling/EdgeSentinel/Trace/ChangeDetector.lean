import Mathlib.Tactic.Common
import Mathlib.Data.List.Basic

/-!
# Change detectors

A detector watches a signal and reports its changes. It keeps the value seen last as
its baseline; a reset makes it forget the baseline, so that the first value after a
reset is only remembered.

`Detector.run` is the protocol of a trace with such a detector in it: a changed value
must be reported, once, before the next value or reset, and nothing else may be
reported. `reports_eq_changes` is what the protocol says of a trace: between resets,
the reports are the pairs of adjacent values that differ, in order.
-/

namespace EdgeSentinel.Trace

variable {α : Type*}

/-- What a trace shows of a detector. -/
inductive Observation (α : Type*) where
  /-- The detector forgets its baseline. -/
  | reset
  /-- The signal has the value `a`. -/
  | value (a : α)
  /-- The change from `a` to `b` is reported. -/
  | report (a b : α)
  deriving DecidableEq

namespace Observation

/-- The value shown. -/
def value? : Observation α → Option α
  | .value a => some a
  | _ => none

/-- The change reported. -/
def report? : Observation α → Option (α × α)
  | .report a b => some (a, b)
  | _ => none

end Observation

/-- The values of the signal in a trace. -/
def values (l : List (Observation α)) : List α := l.filterMap Observation.value?

/-- The changes reported in a trace. -/
def reports (l : List (Observation α)) : List (α × α) := l.filterMap Observation.report?

@[simp] theorem values_value (a : α) (l : List (Observation α)) :
    values (.value a :: l) = a :: values l := rfl

@[simp] theorem values_report (a b : α) (l : List (Observation α)) :
    values (.report a b :: l) = values l := rfl

@[simp] theorem reports_value (a : α) (l : List (Observation α)) :
    reports (.value a :: l) = reports l := rfl

@[simp] theorem reports_report (a b : α) (l : List (Observation α)) :
    reports (.report a b :: l) = (a, b) :: reports l := rfl

variable [DecidableEq α]

/-- The pairs of adjacent items that differ. -/
def changes : List α → List (α × α)
  | a :: b :: l => if a = b then changes (b :: l) else (a, b) :: changes (b :: l)
  | _ => []

/-- The first change is one from the first item. -/
theorem fst_of_head?_changes {a : α} {l : List α} {r : α × α}
    (h : (changes (a :: l)).head? = some r) : r.1 = a := by
  induction l generalizing a with
  | nil => simp [changes] at h
  | cons b l ih =>
    rw [changes] at h
    split_ifs at h with hab
    · exact (ih h).trans hab.symm
    · obtain rfl := Option.some.inj h
      rfl

/-- Each change goes on where the one before it has led. -/
theorem isChain_changes (l : List α) : (changes l).IsChain fun r r' => r.2 = r'.1 := by
  induction l with
  | nil => exact .nil
  | cons a l ih =>
    cases l with
    | nil => exact .nil
    | cons b l =>
      rw [changes]
      split_ifs
      · exact ih
      · cases hr : changes (b :: l) with
        | nil => exact .singleton _
        | cons r rs =>
          rw [hr] at ih
          exact .cons_cons (fst_of_head?_changes (by rw [hr]; rfl)).symm ih

/-- The state of a detector: its baseline, and a change it still has to report. -/
structure Detector (α : Type*) where
  /-- The value seen last since the last reset. -/
  baseline : Option α
  /-- The change to report next. -/
  owed : Option (α × α)
  deriving DecidableEq

namespace Detector

/-- A detector that has seen `b` last and reported everything. -/
def settled (b : Option α) : Detector α := ⟨b, none⟩

/-- One observation: the state after it, or none where it breaks the protocol. -/
def step (d : Detector α) (o : Observation α) : Option (Detector α) :=
  match d.owed, o with
  | none, .reset => some (settled none)
  | none, .value a =>
    match d.baseline with
    | none => some (settled (some a))
    | some b => if b = a then some d else some ⟨some a, some (b, a)⟩
  | some r, .report a b => if r = (a, b) then some (settled d.baseline) else none
  | _, _ => none

/-- The state after a trace, or none where it breaks the protocol. -/
def run (d : Detector α) (l : List (Observation α)) : Option (Detector α) := l.foldlM step d

@[simp] theorem run_nil (d : Detector α) : d.run [] = some d := rfl

@[simp] theorem run_cons (d : Detector α) (o : Observation α) (l : List (Observation α)) :
    d.run (o :: l) = (d.step o).bind fun d' => d'.run l := rfl

theorem run_append (d : Detector α) (l₁ l₂ : List (Observation α)) :
    d.run (l₁ ++ l₂) = (d.run l₁).bind fun d' => d'.run l₂ := by
  rw [run, List.foldlM_append]
  rfl

/-- What a trace without resets reports, from a detector that has seen `b` last: what
is owed, and then the changes from `b` on. -/
theorem reports_of_run {b : α} {o : Option (α × α)} {b' : Option α} {l : List (Observation α)}
    (hl : .reset ∉ l) (h : run ⟨some b, o⟩ l = some (settled b')) :
    reports l = o.toList ++ changes (b :: values l) := by
  induction l generalizing b o with
  | nil =>
    simp only [run_nil, Option.some.injEq, settled, Detector.mk.injEq] at h
    simp [h.2, reports, values, changes]
  | cons x l ih =>
    have hl' : .reset ∉ l := fun hm => hl (List.mem_cons_of_mem _ hm)
    cases x with
    | reset => exact absurd List.mem_cons_self hl
    | value a =>
      cases o with
      | some r => simp [step] at h
      | none =>
        by_cases hba : b = a
        · subst hba
          have := ih hl' (by simpa [step] using h)
          simpa [changes] using this
        · have := ih hl' (by simpa [step, hba] using h)
          simpa [changes, hba] using this
    | report a a' =>
      cases o with
      | none => simp [step] at h
      | some r =>
        by_cases hr : r = (a, a')
        · have := ih (o := none) hl' (by simpa [step, hr, settled] using h)
          simpa [hr] using this
        · simp [step, hr] at h

/-- From a detector without a baseline, a trace without resets reports the changes of
its values. -/
theorem reports_of_run_none {b' : Option α} {l : List (Observation α)} (hl : .reset ∉ l)
    (h : (settled none).run l = some (settled b')) : reports l = changes (values l) := by
  cases l with
  | nil => rfl
  | cons x l =>
    have hl' : .reset ∉ l := fun hm => hl (List.mem_cons_of_mem _ hm)
    cases x with
    | reset => exact absurd List.mem_cons_self hl
    | value a =>
      have := reports_of_run (o := none) hl' (by simpa [step, settled] using h)
      simpa using this
    | report a a' => simp [step, settled] at h

/-- **Reports are changes**: in a trace that keeps the protocol, the stretch after a
reset, up to the next reset or to the end, reports exactly the pairs of adjacent
values that differ, in order. -/
theorem reports_eq_changes {d : Detector α} {b : Option α} {pre seg post : List (Observation α)}
    (h : d.run (pre ++ .reset :: seg ++ post) = some (settled b)) (hseg : .reset ∉ seg)
    (hpost : post = [] ∨ ∃ rest, post = .reset :: rest) : reports seg = changes (values seg) := by
  rw [List.append_assoc, run_append, Option.bind_eq_some_iff] at h
  obtain ⟨d₁, -, h⟩ := h
  rw [List.cons_append, run_cons, Option.bind_eq_some_iff] at h
  obtain ⟨d₂, h₂, h⟩ := h
  have hd₂ : d₂ = settled none := by
    rcases d₁ with ⟨b₁, _ | r⟩ <;> simp [step] at h₂
    exact h₂.symm
  subst hd₂
  rw [run_append, Option.bind_eq_some_iff] at h
  obtain ⟨d₃, h₃, h⟩ := h
  -- the detector owes nothing where the stretch ends
  have hd₃ : d₃ = settled d₃.baseline := by
    rcases d₃ with ⟨b₃, _ | r⟩
    · rfl
    · rcases hpost with rfl | ⟨rest, rfl⟩
      · simp [settled] at h
      · simp [step] at h
  rw [hd₃] at h₃
  exact reports_of_run_none hseg h₃

end Detector

end EdgeSentinel.Trace
