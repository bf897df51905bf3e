import Mathlib.Logic.Relation
import Velox.Lib.Effect

/-!
# Programs among others

A program shares its world with others: between any two of its calls, and before it
returns, the others may have taken any number of steps. What a call is answered with
is a relation here, so an answer may be any of several, and others may also step
while a call is being answered.

## Main definitions

* `Answers` — the replies a call can get, and the worlds it can leave behind
* `Prog.Interleaved` — the complete runs of a program among the steps of others
* `Proc.Runs` — the same for programs with local state and exceptions

## Main results

* `Prog.interleaved_of_run` — a run over a handler is one of them
* `Proc.Runs.bind`, `Proc.Runs.tryCatch`, `Proc.Runs.request` — a run taken apart
-/

set_option autoImplicit false

open Relation (ReflTransGen)

/-- The replies a call can get in a world, and the worlds it can leave behind. -/
abbrev Answers (F : Signature) (W : Type) := (c : F.Call) → W → F.Reply c → W → Prop

variable {F : Signature} {W α β ε σ : Type} {A : Answers F W} {E : W → W → Prop}

namespace Prog

/-- The complete runs of a program whose calls are answered by `A` while others step
by `E`. -/
inductive Interleaved (A : Answers F W) (E : W → W → Prop) : Prog F α → W → α → W → Prop
  | ret {a : α} {w w' : W} : ReflTransGen E w w' → Interleaved A E (ret a) w a w'
  | call {c : F.Call} {next : F.Reply c → Prog F α} {w w₁ w₂ w' : W} {r : F.Reply c} {a : α} :
      ReflTransGen E w w₁ → A c w₁ r w₂ → Interleaved A E (next r) w₂ a w' →
      Interleaved A E (call c next) w a w'

theorem interleaved_bind {p : Prog F α} {f : α → Prog F β} {w w' : W} {b : β}
    (h : (p.bind f).Interleaved A E w b w') :
    ∃ a w₁, p.Interleaved A E w a w₁ ∧ (f a).Interleaved A E w₁ b w' := by
  induction p generalizing w with
  | ret a => exact ⟨a, w, .ret .refl, h⟩
  | call c next ih =>
    cases h with
    | call hsteps hc hnext =>
      obtain ⟨a, w₁, hnext', hf⟩ := ih _ hnext
      exact ⟨a, w₁, .call hsteps hc hnext', hf⟩

/-- A run over a handler whose replies are among the answers, nobody else stepping. -/
theorem interleaved_of_run {h : Handler F W} (hA : ∀ c w, A c w (h c w).1 (h c w).2)
    (p : Prog F α) (w : W) : p.Interleaved A E w (p.run h w).1 (p.run h w).2 := by
  induction p generalizing w with
  | ret a => exact .ret .refl
  | call c next ih => exact .call .refl (hA c w) (ih _ _)

end Prog

namespace Proc

/-- A complete run of a program among the steps of others. -/
def Runs (A : Answers F W) (E : W → W → Prop) (m : Proc F σ ε α) (s : σ) (w : W) (r : Except ε α)
    (s' : σ) (w' : W) : Prop :=
  (m s).Interleaved A E w (r, s') w'

variable {m : Proc F σ ε α} {s s' : σ} {w w' : W} {r : Except ε α}

/-- A result that is already known is returned, whatever the others do. -/
theorem Runs.ofExcept {x : Except ε α} (h : (ofExcept x : Proc F σ ε α).Runs A E s w r s' w') :
    r = x ∧ s' = s ∧ ReflTransGen E w w' := by
  cases h with
  | ret hsteps => exact ⟨rfl, rfl, hsteps⟩

theorem Runs.pure {a : α} (h : (Pure.pure a : Proc F σ ε α).Runs A E s w r s' w') :
    r = .ok a ∧ s' = s ∧ ReflTransGen E w w' := Runs.ofExcept h

theorem Runs.throw {e : ε} (h : (throw e : Proc F σ ε α).Runs A E s w r s' w') :
    r = .error e ∧ s' = s ∧ ReflTransGen E w w' := Runs.ofExcept h

/-- A call finds the world after steps of the others, and they may go on after it. -/
theorem Runs.request {c : F.Call} {unpack : F.Reply c → Except ε α}
    (h : (request F c unpack).Runs A E s w r s' w') :
    ∃ w₁ reply w₂, ReflTransGen E w w₁ ∧ A c w₁ reply w₂ ∧ ReflTransGen E w₂ w' ∧
      r = unpack reply ∧ s' = s := by
  cases h with
  | call hsteps hc hnext =>
    cases hnext with
    | ret hsteps' => exact ⟨_, _, _, hsteps, hc, hsteps', rfl, rfl⟩

/-- A composition runs its first part; then its second part, or it passes an
exception on. -/
theorem Runs.bind {f : α → Proc F σ ε β} {r : Except ε β} (h : (m >>= f).Runs A E s w r s' w') :
    (∃ a s₁ w₁, m.Runs A E s w (.ok a) s₁ w₁ ∧ (f a).Runs A E s₁ w₁ r s' w') ∨
      ∃ e w₁, m.Runs A E s w (.error e) s' w₁ ∧ r = .error e ∧ ReflTransGen E w₁ w' := by
  obtain ⟨⟨e | a, s₁⟩, w₁, hfirst, hrest⟩ := Prog.interleaved_bind h
  · cases hrest with
    | ret hsteps => exact Or.inr ⟨e, w₁, hfirst, rfl, hsteps⟩
  · exact Or.inl ⟨a, s₁, w₁, hfirst, hrest⟩

/-- What is tried returns, or its exception is handled. -/
theorem Runs.tryCatch {handle : ε → Proc F σ ε α}
    (h : (tryCatch m handle).Runs A E s w r s' w') :
    (∃ a w₁, m.Runs A E s w (.ok a) s' w₁ ∧ r = .ok a ∧ ReflTransGen E w₁ w') ∨
      ∃ e s₁ w₁, m.Runs A E s w (.error e) s₁ w₁ ∧ (handle e).Runs A E s₁ w₁ r s' w' := by
  obtain ⟨⟨e | a, s₁⟩, w₁, hfirst, hrest⟩ := Prog.interleaved_bind h
  · exact Or.inr ⟨e, s₁, w₁, hfirst, hrest⟩
  · cases hrest with
    | ret hsteps => exact Or.inl ⟨a, w₁, hfirst, rfl, hsteps⟩

end Proc
