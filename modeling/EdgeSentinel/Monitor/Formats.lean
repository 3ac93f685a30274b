import EdgeSentinel.Monitor.Frame
import EdgeSentinel.Trace.Lockstep

/-!
# The output format

The two branches behind a round do not only print: the one for `--output text` goes once more
through the processes, with `active_process`, at which the clean-up behind the output looks.

## What is proved

* `afterOutput_text` — that loop leaves `active_process` where the loop over the processes has left
  it.
* `daemon_formats` — **a run** does the same with either format, event by event, and stops for the
  same reason, whatever it is given.
-/

namespace EdgeSentinel.Monitor

open Trace Trace.Traced

/-- An action, whatever the output format is. -/
def Action.withoutFormat : Action → Action
  | .printed _ snapshot download upload => .printed .json snapshot download upload
  | action => action

/-- An event, whatever the output format is. -/
def withoutFormat (e : Event) : Event := ⟨e.source, e.action.withoutFormat⟩

variable {calls : RoundCalls} {s s₁ : MainState}

/-- The system part of a round prints, and does nothing else, in its own format. -/
theorem monitorSystem_formats (calls : RoundCalls) (s : MainState) :
    Lockstep (fun a => some (withoutFormat ⟨.system, a⟩)) Eq (fun _ => False)
      (monitorSystem .text calls s) (monitorSystem .json calls s) := by
  have hrefl : ∀ {α : Type} (x : Traced Action Exit α),
      Lockstep (fun a => some (withoutFormat ⟨.system, a⟩)) Eq (fun _ => False) x x :=
    fun x => .refl (fun _ => rfl) x
  refine .bind (hrefl _) ?_
  rintro cpu _ rfl
  refine .bind (hrefl _) ?_
  rintro network _ rfl
  refine .bind (hrefl _) ?_
  rintro memory _ rfl
  refine .bind (hrefl _) ?_
  rintro disk _ rfl
  refine .bind (hrefl _) ?_
  rintro watched _ rfl
  refine .bind (hrefl _) ?_
  rintro logged _ rfl
  refine .orStop_bind fun uptimeSeconds _ => .orStop_bind fun loadAverage _ => ?_
  exact .orStop_bind fun currentTime _ => .emit_bind rfl (.pure rfl)

/-- **The loop of the text output** leaves `active_process` where it was. -/
theorem afterOutput_text (h : (monitorProcesses calls s).result = .ok s₁) :
    (processIndices s₁.processCount).getLastD s₁.activeProcess = s₁.activeProcess := by
  obtain ⟨-, -, heq⟩ := run_monitorProcess_ok (nodup_processIndices _) h
  rw [heq]
  dsimp only
  cases processIndices s.processCount with
  | nil => rfl
  | cons i is => rfl

/-- **A round** is the same with either format, but for what it prints. -/
theorem round_formats (calls : RoundCalls) (s : MainState) :
    Lockstep (fun e => some (withoutFormat e)) Eq (fun _ => False)
      (round .text calls s) (round .json calls s) := by
  have hprocesses : (monitorProcesses calls s).Yields
      (fun t => (processIndices t.processCount).getLastD t.activeProcess = t.activeProcess)
      fun _ => True := ⟨fun _ => afterOutput_text, fun _ _ => trivial⟩
  refine .bind (Lockstep.and_yields (.refl (fun _ => rfl) _) hprocesses hprocesses) ?_
  rintro s₁ _ ⟨rfl, hactive, -⟩
  have hsystem : ∀ format, (monitorSystem format calls s₁).Yields
      (fun r => SameProcesses s₁ r.2) fun _ => True := fun format =>
    (monitorSystem_yields format calls s₁).mono (fun _ h => h) fun _ _ => trivial
  refine .bind (.rename (Lockstep.and_yields (monitorSystem_formats calls s₁) (hsystem .text)
    (hsystem .json))) ?_
  rintro ⟨cpu, s₂⟩ _ ⟨rfl, hsame, -⟩
  have houtput : afterOutput .text s₂ = s₂ := by
    have hsame' : (processIndices s₂.processCount).getLastD s₂.activeProcess = s₂.activeProcess := by
      rw [hsame.processCount, hsame.activeProcess]
      exact hactive
    rw [afterOutput, hsame']
  refine .pure ?_
  rw [houtput]
  rfl

/-- **A turn of the loop** is the same. -/
theorem iteration_formats (it : Iteration) (s : MainState) :
    Lockstep (fun e => some (withoutFormat e)) Eq (fun _ => False)
      (iteration .text s it) (iteration .json s it) := by
  refine .bind (.refl (fun _ => rfl) _) ?_
  rintro s₁ _ rfl
  exact round_formats it.round s₁

/-- **A run** with `--output text` and one with `--output json` that are given the same do the same
in the same order: they read, grade, log and notify alike, print the same readings each in its own
format, and stop for the same reason or are at the same point in the same state. -/
theorem daemon_formats (calls : StartCalls) (its : List Iteration) :
    (daemon .text calls its).events.map withoutFormat =
        (daemon .json calls its).events.map withoutFormat ∧
      (daemon .text calls its).result = (daemon .json calls its).result := by
  have hlockstep : Lockstep (fun e => some (withoutFormat e)) Eq (fun _ => False)
      (daemon .text calls its) (daemon .json calls its) := by
    refine .bind (.refl (fun _ => rfl) _) ?_
    rintro s₀ _ rfl
    refine .run (R := fun _ => Eq) ?_ rfl
    rintro it _ s _ rfl
    exact iteration_formats it s
  have hmap : ∀ x : Traced Event Exit MainState,
      x.shown (fun e => some (withoutFormat e)) = x.events.map withoutFormat := by
    intro x
    rw [shown, ← List.filterMap_eq_map]
    rfl
  cases hlockstep with
  | both hx hy h hview =>
    rw [hmap, hmap] at hview
    exact ⟨hview, by rw [hx, hy, h]⟩
  | stop hx hy hview =>
    rw [hmap, hmap] at hview
    exact ⟨hview, by rw [hx, hy]⟩
  | left hr => exact hr.elim
  | right hr => exact hr.elim

end EdgeSentinel.Monitor
