import Mathlib.Logic.Basic

/-!
# Runs of a deterministic system

A system answers each operation with a new state. A run is a list of
operations; an operation that is not possible in a state leaves it unchanged.

## Main definitions

* `Run.after` — the state a run ends in
* `Run.Along` — every operation of a run meets a condition on the state it
  starts from

## Main results

* `Run.after_invariant` — what every step keeps, every run keeps
* `Run.Along.invariant` — the same for steps that meet a condition
-/

set_option autoImplicit false

namespace Run

variable {σ ο : Type*} {step : σ → ο → σ} {I : σ → Prop} {P : σ → ο → Prop}

/-- The state after a list of operations. -/
def after (step : σ → ο → σ) : σ → List ο → σ
  | s, [] => s
  | s, o :: os => after step (step s o) os

/-- Every operation of the run meets `P` in the state it starts from. -/
def Along (step : σ → ο → σ) (P : σ → ο → Prop) : σ → List ο → Prop
  | _, [] => True
  | s, o :: os => P s o ∧ Along step P (step s o) os

@[simp] theorem after_nil (s : σ) : after step s [] = s := rfl

@[simp] theorem after_cons (s : σ) (o : ο) (os : List ο) :
    after step s (o :: os) = after step (step s o) os := rfl

@[simp] theorem along_nil (s : σ) : Along step P s [] ↔ True := Iff.rfl

@[simp] theorem along_cons (s : σ) (o : ο) (os : List ο) :
    Along step P s (o :: os) ↔ P s o ∧ Along step P (step s o) os := Iff.rfl

theorem after_append (s : σ) (os os' : List ο) :
    after step s (os ++ os') = after step (after step s os) os' := by
  induction os generalizing s with
  | nil => rfl
  | cons o os ih => exact ih _

theorem along_of_forall {os : List ο} (h : ∀ o ∈ os, ∀ s, P s o) (s : σ) : Along step P s os := by
  induction os generalizing s with
  | nil => exact trivial
  | cons o os ih =>
    exact ⟨h o List.mem_cons_self s, ih (fun o' ho' => h o' (List.mem_cons_of_mem o ho')) _⟩

theorem Along.mono {P' : σ → ο → Prop} (h : ∀ s o, P s o → P' s o) {s : σ} {os : List ο}
    (hrun : Along step P s os) : Along step P' s os := by
  induction os generalizing s with
  | nil => exact trivial
  | cons o os ih => exact ⟨h s o hrun.1, ih hrun.2⟩

/-- What every step that meets the condition keeps, a run of such steps keeps. -/
theorem Along.invariant (hstep : ∀ s o, P s o → I s → I (step s o)) {s : σ} {os : List ο}
    (hrun : Along step P s os) (hs : I s) : I (after step s os) := by
  induction os generalizing s with
  | nil => exact hs
  | cons o os ih => exact ih hrun.2 (hstep s o hrun.1 hs)

/-- What every step keeps, every run keeps. -/
theorem after_invariant (hstep : ∀ s o, I s → I (step s o)) {s : σ} (hs : I s) (os : List ο) :
    I (after step s os) := by
  induction os generalizing s with
  | nil => exact hs
  | cons o os ih => exact ih (hstep s o hs)

instance decidableAlong [∀ s o, Decidable (P s o)] (s : σ) (os : List ο) :
    Decidable (Along step P s os) :=
  match os with
  | [] => inferInstanceAs (Decidable True)
  | o :: os =>
    have : Decidable (Along step P (step s o) os) := decidableAlong (step s o) os
    inferInstanceAs (Decidable (P s o ∧ Along step P (step s o) os))

end Run
