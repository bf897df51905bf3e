import Mathlib.Logic.Basic

/-!
# Guarded computations

Reading a chain of checks in `Except` as the conjunction of what they check.

## Main definitions

* `Except.raiseIf` — raise when a condition holds
* `Except.either` — one continuation for a result, another for an exception
* `Except.raised` — whether an exception was raised
* `Except.RaisesOnly` — every exception raised is of a given kind

## Main results

* `Except.bind_eq_ok_iff`, `Except.raiseIf_eq_ok_iff` — when a chain succeeds
* `Except.raisesOnly_bind` — what a chain raises
-/

set_option autoImplicit false

namespace Except

variable {ε α β : Type}

/-- Raise an exception when a condition holds. -/
def raiseIf (c : Prop) [Decidable c] (e : ε) : Except ε Unit := if c then .error e else .ok ()

variable {c : Prop} [Decidable c] {e : ε}

@[simp] theorem pure_eq_ok (a : α) : (pure a : Except ε α) = .ok a := rfl

@[simp] theorem throw_eq_error (e : ε) : (throw e : Except ε α) = .error e := rfl

@[simp] theorem ok_bind (a : α) (f : α → Except ε β) : ((.ok a : Except ε α) >>= f) = f a := rfl

@[simp] theorem error_bind (e : ε) (f : α → Except ε β) :
    ((.error e : Except ε α) >>= f) = .error e := rfl

@[simp] theorem raiseIf_pos (h : c) : raiseIf c e = .error e := if_pos h

@[simp] theorem raiseIf_neg (h : ¬c) : raiseIf c e = .ok () := if_neg h

@[simp] theorem raiseIf_eq_ok_iff {u : Unit} : raiseIf c e = .ok u ↔ ¬c := by
  by_cases h : c <;> simp [h]

theorem bind_eq_ok_iff {x : Except ε α} {f : α → Except ε β} {b : β} :
    (x >>= f) = .ok b ↔ ∃ a, x = .ok a ∧ f a = .ok b := by
  cases x <;> simp

theorem mapError_ok {ε' : Type} (g : ε → ε') (a : α) :
    (.ok a : Except ε α).mapError g = .ok a := rfl

theorem mapError_error {ε' : Type} (g : ε → ε') (e : ε) :
    (.error e : Except ε α).mapError g = .error (g e) := rfl

theorem mapError_eq_ok_iff {ε' : Type} {g : ε → ε'} {x : Except ε α} {a : α} :
    x.mapError g = .ok a ↔ x = .ok a := by
  cases x with
  | error e =>
    rw [mapError_error]
    constructor
    · intro h
      cases h
    · intro h
      cases h
  | ok b => rw [mapError_ok, ok.injEq, ok.injEq]

/-- Continue with a result one way and with an exception another way. -/
def either {γ : Sort*} (onOk : α → γ) (onError : ε → γ) : Except ε α → γ
  | .ok a => onOk a
  | .error e => onError e

@[simp] theorem either_ok {γ : Sort*} (f : α → γ) (g : ε → γ) (a : α) :
    (Except.ok a).either f g = f a := rfl

@[simp] theorem either_error {γ : Sort*} (f : α → γ) (g : ε → γ) (e : ε) :
    (Except.error e).either f g = g e := rfl

/-- Whether an exception was raised. -/
def raised (x : Except ε α) : Bool := x.either (fun _ => false) fun _ => true

@[simp] theorem raised_ok (a : α) : (Except.ok a : Except ε α).raised = false := rfl

@[simp] theorem raised_error (e : ε) : (Except.error e : Except ε α).raised = true := rfl

/-- What comes after an exception is not evaluated. -/
theorem raised_bind {x : Except ε α} {f : α → Except ε β} (h : x.raised = true) :
    (x >>= f).raised = true := by
  cases x with
  | ok a => cases h
  | error e => rfl

/-! ### The exceptions of a chain -/

/-- Every exception the computation raises satisfies `P`. -/
def RaisesOnly (P : ε → Prop) (x : Except ε α) : Prop := ∀ e, x = .error e → P e

variable {P : ε → Prop}

@[simp] theorem raisesOnly_ok (a : α) : RaisesOnly P (.ok a : Except ε α) ↔ True := by
  simp [RaisesOnly]

@[simp] theorem raisesOnly_error (e : ε) : RaisesOnly P (.error e : Except ε α) ↔ P e := by
  simp [RaisesOnly]

@[simp] theorem raisesOnly_raiseIf : RaisesOnly P (raiseIf c e) ↔ (c → P e) := by
  by_cases h : c <;> simp [h]

@[simp] theorem raisesOnly_bind {x : Except ε α} {f : α → Except ε β} :
    RaisesOnly P (x >>= f) ↔ RaisesOnly P x ∧ ∀ a, x = .ok a → RaisesOnly P (f a) := by
  cases x <;> simp

end Except
