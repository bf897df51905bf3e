import Velox.Lib.Effect

/-!
# Programs side by side

Two programs are coupled when they make related calls and, given related replies,
go on coupled until they return related results. Over handlers that answer related
calls with related replies, coupled programs end with related results. This is how a
statement about two runs is reduced to one step of each.

## Main definitions

* `Prog.Coupled`, `Proc.Coupled` — two programs that go side by side

## Main results

* `Prog.Coupled.run` — coupled programs end with related results
-/

set_option autoImplicit false

namespace Prog

variable {F G : Signature} {α β γ δ W V : Type}

/-- The programs make calls related by `C` and, given replies related by `P`, go on
coupled until they return results related by `Q`. -/
def Coupled (C : F.Call → G.Call → Prop) (P : ∀ c d, F.Reply c → G.Reply d → Prop)
    (Q : α → β → Prop) : Prog F α → Prog G β → Prop
  | .ret a, .ret b => Q a b
  | .call c next, .call d next' => C c d ∧ ∀ r s, P c d r s → Coupled C P Q (next r) (next' s)
  | _, _ => False

variable {C : F.Call → G.Call → Prop} {P : ∀ c d, F.Reply c → G.Reply d → Prop}
  {Q : α → β → Prop}

@[simp] theorem coupled_ret {a : α} {b : β} :
    Coupled C P Q (ret a) (ret b) ↔ Q a b := Iff.rfl

@[simp] theorem coupled_call {c : F.Call} {d : G.Call} {next : F.Reply c → Prog F α}
    {next' : G.Reply d → Prog G β} :
    Coupled C P Q (call c next) (call d next') ↔
      C c d ∧ ∀ r s, P c d r s → Coupled C P Q (next r) (next' s) := Iff.rfl

/-- Coupled programs that go on coupled. -/
theorem Coupled.bind {Q' : γ → δ → Prop} {p : Prog F α} {q : Prog G β} {f : α → Prog F γ}
    {g : β → Prog G δ} (hpq : Coupled C P Q p q)
    (hfg : ∀ a b, Q a b → Coupled C P Q' (f a) (g b)) :
    Coupled C P Q' (p.bind f) (q.bind g) := by
  induction p generalizing q with
  | ret a =>
    cases q with
    | ret b => exact hfg a b hpq
    | call d next' => exact hpq.elim
  | call c next ih =>
    cases q with
    | ret b => exact hpq.elim
    | call d next' => exact ⟨hpq.1, fun r s hrs => ih r (hpq.2 r s hrs)⟩

/-- Over handlers that answer related calls with related replies, coupled programs
end with related results. -/
theorem Coupled.run {h : Handler F W} {k : Handler G V} {R : W → V → Prop}
    (step : ∀ c d w v, C c d → R w v →
      P c d (h c w).1 (k d v).1 ∧ R (h c w).2 (k d v).2)
    {p : Prog F α} {q : Prog G β} (hpq : Coupled C P Q p q) {w : W} {v : V} (hR : R w v) :
    Q (p.run h w).1 (q.run k v).1 ∧ R (p.run h w).2 (q.run k v).2 := by
  induction p generalizing q w v with
  | ret a =>
    cases q with
    | ret b => exact ⟨hpq, hR⟩
    | call d next' => exact hpq.elim
  | call c next ih =>
    cases q with
    | ret b => exact hpq.elim
    | call d next' =>
      obtain ⟨hreply, hR'⟩ := step c d w v hpq.1 hR
      exact ih _ (hpq.2 _ _ hreply) hR'

end Prog

namespace Proc

variable {F G : Signature} {σ ε α β : Type} {C : F.Call → G.Call → Prop}
  {P : ∀ c d, F.Reply c → G.Reply d → Prop}

/-- The programs make calls related by `C` and, given replies related by `P`, come to the same
result or exception and the same local state. -/
def Coupled (C : F.Call → G.Call → Prop) (P : ∀ c d, F.Reply c → G.Reply d → Prop)
    (m : Proc F σ ε α) (m' : Proc G σ ε α) : Prop :=
  ∀ s, Prog.Coupled C P Eq (m s) (m' s)

theorem coupled_pure {a : α} : Coupled C P (pure a : Proc F σ ε α) (pure a) := fun _ => rfl

theorem coupled_throw {e : ε} : Coupled C P (throw e : Proc F σ ε α) (throw e) := fun _ => rfl

theorem coupled_ofExcept {r : Except ε α} : Coupled C P (ofExcept r : Proc F σ ε α) (ofExcept r) :=
  fun _ => rfl

theorem Coupled.request {c : F.Call} {d : G.Call} {unpack : F.Reply c → Except ε α}
    {unpack' : G.Reply d → Except ε α} (hcd : C c d)
    (hreply : ∀ r s, P c d r s → unpack r = unpack' s) :
    Coupled C P (request F c unpack : Proc F σ ε α) (request G d unpack') :=
  fun s => ⟨hcd, fun r r' hr => congrArg (·, s) (hreply r r' hr)⟩

theorem Coupled.seq {m : Proc F σ ε α} {m' : Proc G σ ε α} {f : α → Proc F σ ε β}
    {f' : α → Proc G σ ε β} (hm : Coupled C P m m') (hf : ∀ a, Coupled C P (f a) (f' a)) :
    Coupled C P (m >>= f) (m' >>= f') := by
  intro s
  apply Prog.Coupled.bind (hm s)
  rintro ⟨r, s'⟩ _ rfl
  cases r with
  | ok a => exact hf a s'
  | error e => exact rfl

theorem Coupled.handle {m : Proc F σ ε α} {m' : Proc G σ ε α} {handle : ε → Proc F σ ε α}
    {handle' : ε → Proc G σ ε α} (hm : Coupled C P m m')
    (hhandle : ∀ e, Coupled C P (handle e) (handle' e)) :
    Coupled C P (tryCatch m handle) (tryCatch m' handle') := by
  intro s
  apply Prog.Coupled.bind (hm s)
  rintro ⟨r, s'⟩ _ rfl
  cases r with
  | ok a => exact rfl
  | error e => exact hhandle e s'

theorem Coupled.ite {c : Prop} [Decidable c] {m n : Proc F σ ε α} {m' n' : Proc G σ ε α}
    (hm : c → Coupled C P m m') (hn : ¬c → Coupled C P n n') :
    Coupled C P (if c then m else n) (if c then m' else n') := by
  by_cases hc : c
  · rw [if_pos hc, if_pos hc]
    exact hm hc
  · rw [if_neg hc, if_neg hc]
    exact hn hc

end Proc
