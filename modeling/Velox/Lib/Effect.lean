import Mathlib.Data.Nat.Notation
import Velox.Lib.Guard

/-!
# Programs over an effect signature

A program that talks to the outside is a tree: it either returns, or makes a
call and continues with the reply. What a call does is left to a handler over
some world, so the same program can be run to the end, cut short between two
calls, or advanced one call at a time among others.

`Proc` adds what an imperative method has on top of that: local state that
nobody else sees, and exceptions that leave the local state as it was when they
were raised.

## Main definitions

* `Signature`, `Prog`, `Handler` — calls, programs, and what calls do
* `Prog.run` — the whole program, undisturbed
* `Prog.interrupt` — the world left behind after a given number of calls
* `Prog.advance` — one call of a program
* `Prog.transcript` — the calls a run makes, with their replies
* `Prog.Always` — what holds of every call made, and what holds at the end
* `Prog.Calls` — what holds of every call and result whatever the replies
* `Proc`, `Proc.run`, `Proc.Ensures` — programs with local state and exceptions

## Main results

* `Prog.run_bind` — running a composition
* `Prog.always_bind`, `Prog.Always.run` — the rules for properties of a run
* `Prog.Always.keeps`, `Prog.Always.interrupt` — what every call keeps holds at
  the end, and wherever the program is stopped
* `Prog.Always.run_congr` — handlers that agree on the calls made
* `Prog.Calls.always` — what calls of a kind keep, a program making no others keeps
* `Prog.Calls.simulation` — handlers that cannot be told apart
* `Proc.ensures_bind`, `Proc.ensures_tryCatch` — the rules of `Proc`
-/

set_option autoImplicit false

/-- The calls a program can make and the replies it can get. -/
structure Signature where
  Call : Type
  Reply : Call → Type

/-- A program over a signature. -/
inductive Prog (F : Signature) (α : Type) : Type
  | ret (a : α)
  | call (c : F.Call) (next : F.Reply c → Prog F α)

/-- What the calls of a signature do to a world. -/
abbrev Handler (F : Signature) (W : Type) := (c : F.Call) → W → F.Reply c × W

namespace Prog

variable {F : Signature} {α β γ W : Type}

/-- Continue a program with another one. -/
def bind : Prog F α → (α → Prog F β) → Prog F β
  | .ret a, f => f a
  | .call c next, f => .call c fun r => (next r).bind f

instance : Monad (Prog F) where
  pure := .ret
  bind := Prog.bind

@[simp] theorem ret_bind (a : α) (f : α → Prog F β) : (ret a).bind f = f a := rfl

@[simp] theorem call_bind (c : F.Call) (next : F.Reply c → Prog F α) (f : α → Prog F β) :
    (call c next).bind f = call c fun r => (next r).bind f := rfl

/-- Run a program to its end. -/
def run (h : Handler F W) : Prog F α → W → α × W
  | .ret a, w => (a, w)
  | .call c next, w => (next (h c w).1).run h (h c w).2

@[simp] theorem run_ret (h : Handler F W) (a : α) (w : W) : (ret a : Prog F α).run h w = (a, w) :=
  rfl

@[simp] theorem run_call (h : Handler F W) (c : F.Call) (next : F.Reply c → Prog F α) (w : W) :
    (call c next).run h w = (next (h c w).1).run h (h c w).2 := rfl

theorem run_bind (h : Handler F W) (p : Prog F α) (f : α → Prog F β) (w : W) :
    (p.bind f).run h w = (f (p.run h w).1).run h (p.run h w).2 := by
  induction p generalizing w with
  | ret a => rfl
  | call c next ih => exact ih _ _

/-! ### One call at a time -/

/-- The call a program is about to make. -/
def pending : Prog F α → Option F.Call
  | .ret _ => none
  | .call c _ => some c

/-- Make the next call; a program that has returned stays where it is. -/
def advance (h : Handler F W) : Prog F α → W → Prog F α × W
  | .ret a, w => (.ret a, w)
  | .call c next, w => (next (h c w).1, (h c w).2)

@[simp] theorem advance_ret (h : Handler F W) (a : α) (w : W) :
    (ret a : Prog F α).advance h w = (ret a, w) := rfl

@[simp] theorem advance_call (h : Handler F W) (c : F.Call) (next : F.Reply c → Prog F α) (w : W) :
    (call c next).advance h w = (next (h c w).1, (h c w).2) := rfl

/-- Nobody interfering, advancing does not change where a program ends. -/
theorem run_advance (h : Handler F W) (p : Prog F α) (w : W) :
    (p.advance h w).1.run h (p.advance h w).2 = p.run h w := by
  cases p <;> rfl

/-- The world a program leaves behind when it is stopped after `n` calls. -/
def interrupt (h : Handler F W) : ℕ → Prog F α → W → W
  | 0, _, w => w
  | _ + 1, .ret _, w => w
  | n + 1, .call c next, w => (next (h c w).1).interrupt h n (h c w).2

/-- The calls a run makes, each with its reply. -/
def transcript (h : Handler F W) : Prog F α → W → List (Σ c : F.Call, F.Reply c)
  | .ret _, _ => []
  | .call c next, w => ⟨c, (h c w).1⟩ :: (next (h c w).1).transcript h (h c w).2

@[simp] theorem transcript_ret (h : Handler F W) (a : α) (w : W) :
    (ret a : Prog F α).transcript h w = [] := rfl

@[simp] theorem transcript_call (h : Handler F W) (c : F.Call) (next : F.Reply c → Prog F α)
    (w : W) : (call c next).transcript h w =
      ⟨c, (h c w).1⟩ :: (next (h c w).1).transcript h (h c w).2 := rfl

/-! ### Properties of a run -/

/-- Every call made satisfies `P` in the world it is made in, and `Q` holds at
the end. -/
def Always (h : Handler F W) (P : F.Call → W → Prop) (Q : α → W → Prop) : Prog F α → W → Prop
  | .ret a, w => Q a w
  | .call c next, w => P c w ∧ (next (h c w).1).Always h P Q (h c w).2

variable {h : Handler F W} {P : F.Call → W → Prop} {I : W → Prop}

@[simp] theorem always_ret {Q : α → W → Prop} {a : α} {w : W} :
    (ret a : Prog F α).Always h P Q w ↔ Q a w := Iff.rfl

@[simp] theorem always_call {Q : α → W → Prop} {c : F.Call} {next : F.Reply c → Prog F α} {w : W} :
    (call c next).Always h P Q w ↔ P c w ∧ (next (h c w).1).Always h P Q (h c w).2 :=
  Iff.rfl

theorem always_bind {Q : β → W → Prop} {p : Prog F α} {f : α → Prog F β} {w : W} :
    (p.bind f).Always h P Q w ↔ p.Always h P (fun a => (f a).Always h P Q) w := by
  induction p generalizing w with
  | ret a => exact Iff.rfl
  | call c next ih => exact and_congr Iff.rfl (ih _)

theorem Always.mono {P' : F.Call → W → Prop} {Q Q' : α → W → Prop} {p : Prog F α} {w : W}
    (hp : p.Always h P Q w) (hP : ∀ c w, P c w → P' c w) (hQ : ∀ a w, Q a w → Q' a w) :
    p.Always h P' Q' w := by
  induction p generalizing w with
  | ret a => exact hQ a w hp
  | call c next ih => exact ⟨hP _ _ hp.1, ih _ hp.2⟩

/-- What every call keeps, holds at the end. -/
theorem Always.keeps {Q : α → W → Prop} (hstep : ∀ c w, P c w → I w → I (h c w).2) {p : Prog F α}
    {w : W} (hp : p.Always h P Q w) (hw : I w) : p.Always h P (fun a w => I w ∧ Q a w) w := by
  induction p generalizing w with
  | ret a => exact ⟨hw, hp⟩
  | call c next ih => exact ⟨hp.1, ih _ hp.2 (hstep _ _ hp.1 hw)⟩

/-- What every call keeps, holds wherever the program is stopped. -/
theorem Always.interrupt {Q : α → W → Prop} (hstep : ∀ c w, P c w → I w → I (h c w).2)
    {p : Prog F α} {w : W} (hp : p.Always h P Q w) (hw : I w) (n : ℕ) : I (p.interrupt h n w) := by
  induction n generalizing p w with
  | zero => exact hw
  | succ n ih =>
    cases p with
    | ret a => exact hw
    | call c next => exact ih hp.2 (hstep _ _ hp.1 hw)

theorem Always.run {Q : α → W → Prop} {p : Prog F α} {w : W} (hp : p.Always h P Q w) :
    Q (p.run h w).1 (p.run h w).2 := by
  induction p generalizing w with
  | ret a => exact hp
  | call c next ih => exact ih _ hp.2

/-- A handler that agrees on the calls that are made leads to the same end. -/
theorem Always.run_congr {k : Handler F W} {Q : α → W → Prop} (hk : ∀ c w, P c w → k c w = h c w)
    {p : Prog F α} {w : W} (hp : p.Always h P Q w) : p.run k w = p.run h w := by
  induction p generalizing w with
  | ret a => rfl
  | call c next ih =>
    rw [run_call, run_call, hk c w hp.1]
    exact ih _ hp.2

theorem always_of_run {Q : α → W → Prop} {p : Prog F α} {w : W}
    (hp : Q (p.run h w).1 (p.run h w).2) : p.Always h (fun _ _ => True) Q w := by
  induction p generalizing w with
  | ret a => exact hp
  | call c next ih => exact ⟨trivial, ih _ hp⟩

/-! ### The kinds of calls a program makes -/

/-- Whatever the replies, every call the program makes satisfies `K`, and what it
returns satisfies `Q`. -/
def Calls (K : F.Call → Prop) (Q : α → Prop) : Prog F α → Prop
  | .ret a => Q a
  | .call c next => K c ∧ ∀ r, (next r).Calls K Q

variable {K : F.Call → Prop}

@[simp] theorem calls_ret {Q : α → Prop} {a : α} : (ret a : Prog F α).Calls K Q ↔ Q a := Iff.rfl

@[simp] theorem calls_call {Q : α → Prop} {c : F.Call} {next : F.Reply c → Prog F α} :
    (call c next).Calls K Q ↔ K c ∧ ∀ r, (next r).Calls K Q := Iff.rfl

theorem calls_bind {Q : β → Prop} {p : Prog F α} {f : α → Prog F β} :
    (p.bind f).Calls K Q ↔ p.Calls K fun a => (f a).Calls K Q := by
  induction p with
  | ret a => exact Iff.rfl
  | call c next ih => exact and_congr Iff.rfl (forall_congr' ih)

theorem Calls.mono {Q Q' : α → Prop} {p : Prog F α} (hp : p.Calls K Q) (hQ : ∀ a, Q a → Q' a) :
    p.Calls K Q' := by
  induction p with
  | ret a => exact hQ a hp
  | call c next ih => exact ⟨hp.1, fun r => ih r (hp.2 r)⟩

theorem Calls.permit {K' : F.Call → Prop} {Q : α → Prop} {p : Prog F α} (hp : p.Calls K Q)
    (hK : ∀ c, K c → K' c) : p.Calls K' Q := by
  induction p with
  | ret a => exact hp
  | call c next ih => exact ⟨hK c hp.1, fun r => ih r (hp.2 r)⟩

/-- What calls of a given kind keep, holds at the end. -/
theorem Calls.always {Q : α → Prop} (hP : ∀ c w, K c → P c w)
    (hstep : ∀ c w, K c → I w → I (h c w).2) {p : Prog F α} (hp : p.Calls K Q) {w : W} (hw : I w) :
    p.Always h P (fun a w => I w ∧ Q a) w := by
  induction p generalizing w with
  | ret a => exact ⟨hw, hp⟩
  | call c next ih => exact ⟨hP c w hp.1, ih _ (hp.2 _) (hstep c w hp.1 hw)⟩

/-- Handlers that give equal replies to the permitted calls, and stay related,
cannot be told apart by a program that makes no others. -/
theorem Calls.simulation {V : Type} {k : Handler F V} {R : W → V → Prop} {Q : α → Prop}
    (step : ∀ c w v, K c → R w v → (h c w).1 = (k c v).1 ∧ R (h c w).2 (k c v).2)
    {p : Prog F α} (hp : p.Calls K Q) {w : W} {v : V} (hR : R w v) :
    (p.run h w).1 = (p.run k v).1 ∧ R (p.run h w).2 (p.run k v).2 := by
  induction p generalizing w v with
  | ret a => exact ⟨rfl, hR⟩
  | call c next ih =>
    obtain ⟨hreply, hR'⟩ := step c w v hp.1 hR
    simp only [run_call, hreply]
    exact ih _ (hp.2 _) hR'

end Prog

/-- A program with local state and exceptions. An exception keeps the local
state reached when it was raised. -/
def Proc (F : Signature) (σ ε α : Type) : Type := σ → Prog F (Except ε α × σ)

namespace Proc

variable {F : Signature} {σ ε α β W : Type}

/-- Continue with what a program returned; an exception is passed on. -/
def andThen (m : Proc F σ ε α) (f : α → Proc F σ ε β) : Proc F σ ε β := fun s =>
  (m s).bind fun
    | (.ok a, s') => f a s'
    | (.error e, s') => .ret (.error e, s')

/-- Give an exception to a handler. -/
def orElse (m : Proc F σ ε α) (handle : ε → Proc F σ ε α) : Proc F σ ε α := fun s =>
  (m s).bind fun
    | (.ok a, s') => .ret (.ok a, s')
    | (.error e, s') => handle e s'

instance : Monad (Proc F σ ε) where
  pure a := fun s => .ret (.ok a, s)
  bind := andThen

instance : MonadExceptOf ε (Proc F σ ε) where
  throw e := fun s => .ret (.error e, s)
  tryCatch := orElse

instance : MonadStateOf σ (Proc F σ ε) where
  get := fun s => .ret (.ok s, s)
  set s := fun _ => .ret (.ok (), s)
  modifyGet f := fun s => .ret (.ok (f s).1, (f s).2)

/-- Make a call and take its reply for a result or an exception. -/
def request (F : Signature) {σ ε α : Type} (c : F.Call) (unpack : F.Reply c → Except ε α) :
    Proc F σ ε α := fun s => .call c fun r => .ret (unpack r, s)

/-- A result that is already known. -/
def ofExcept (r : Except ε α) : Proc F σ ε α := fun s => .ret (r, s)

/-- Run a program that has no local state. -/
def embed (m : Proc F Unit ε α) : Proc F σ ε α := fun s => (m ()).bind fun r => .ret (r.1, s)

/-- Run a program for what it does, not for what it returns. -/
def discard (m : Proc F σ ε α) : Proc F σ ε Unit := m.andThen fun _ s => .ret (.ok (), s)

instance : MonadLift (Except ε) (Proc F σ ε) := ⟨ofExcept⟩

/-- Taking the reply of a call for something else is still a single call. -/
theorem request_bind_ofExcept {c : F.Call} {unpack : F.Reply c → Except ε α} {f : α → Except ε β} :
    ((request F c unpack : Proc F σ ε α) >>= fun a => ofExcept (f a)) =
      request F c fun r => unpack r >>= f := by
  funext s
  show Prog.call _ _ = Prog.call _ _
  congr 1
  funext r
  show Prog.bind (.ret (unpack r, s)) _ = .ret (unpack r >>= f, s)
  cases unpack r <;> rfl

/-- A call whose exceptions are replaced is still a single call. -/
theorem tryCatch_request_throw {c : F.Call} {unpack : F.Reply c → Except ε α} {replace : ε → ε} :
    (tryCatch (request F c unpack) fun e => throw (replace e) : Proc F σ ε α) =
      request F c fun r => (unpack r).mapError replace := by
  funext s
  show Prog.call _ _ = Prog.call _ _
  congr 1
  funext r
  show Prog.bind (.ret (unpack r, s)) _ = .ret ((unpack r).mapError replace, s)
  cases unpack r <;> rfl

/-- Run to the end: the result or exception, the local state and the world. -/
def run (h : Handler F W) (m : Proc F σ ε α) (s : σ) (w : W) : (Except ε α × σ) × W :=
  (m s).run h w

/-- `P` holds of every call made, in the world it is made in; `Q` of the result or
exception, the local state and the world at the end. -/
def Ensures (h : Handler F W) (P : F.Call → W → Prop) (Q : Except ε α → σ → W → Prop) (m : Proc F σ ε α)
    (s : σ) (w : W) : Prop :=
  (m s).Always h P (fun r => Q r.1 r.2) w

variable {h : Handler F W} {P : F.Call → W → Prop} {Q : Except ε α → σ → W → Prop} {s : σ} {w : W}

@[simp] theorem ensures_pure {a : α} :
    (pure a : Proc F σ ε α).Ensures h P Q s w ↔ Q (.ok a) s w := Iff.rfl

@[simp] theorem ensures_throw {e : ε} :
    (throw e : Proc F σ ε α).Ensures h P Q s w ↔ Q (.error e) s w := Iff.rfl

@[simp] theorem ensures_get {Q : Except ε σ → σ → W → Prop} :
    (get : Proc F σ ε σ).Ensures h P Q s w ↔ Q (.ok s) s w := Iff.rfl

@[simp] theorem ensures_set {Q : Except ε PUnit → σ → W → Prop} {s' : σ} :
    (set s' : Proc F σ ε PUnit).Ensures h P Q s w ↔ Q (.ok ()) s' w := Iff.rfl

@[simp] theorem ensures_modify {Q : Except ε PUnit → σ → W → Prop} {f : σ → σ} :
    (modify f : Proc F σ ε PUnit).Ensures h P Q s w ↔ Q (.ok ()) (f s) w := Iff.rfl

@[simp] theorem ensures_request {c : F.Call} {unpack : F.Reply c → Except ε α} :
    (request F c unpack).Ensures h P Q s w ↔
      P c w ∧ Q (unpack (h c w).1) s (h c w).2 := Iff.rfl

@[simp] theorem ensures_ofExcept {r : Except ε α} :
    (ofExcept r : Proc F σ ε α).Ensures h P Q s w ↔ Q r s w := Iff.rfl

@[simp] theorem ensures_liftM {r : Except ε α} :
    (liftM r : Proc F σ ε α).Ensures h P Q s w ↔ Q r s w := Iff.rfl

@[simp] theorem ensures_embed {m : Proc F Unit ε α} :
    (embed m : Proc F σ ε α).Ensures h P Q s w ↔ m.Ensures h P (fun r _ => Q r s) () w :=
  Prog.always_bind

@[simp] theorem ensures_bind {Q : Except ε β → σ → W → Prop} {m : Proc F σ ε α}
    {f : α → Proc F σ ε β} :
    (m >>= f).Ensures h P Q s w ↔
      m.Ensures h P (fun r s' w' =>
        r.either (fun a => (f a).Ensures h P Q s' w') fun e => Q (.error e) s' w') s w := by
  refine Prog.always_bind.trans (iff_of_eq (congrArg (fun K => Prog.Always h P K (m s) w) ?_))
  funext ⟨r, s'⟩ w'
  cases r <;> rfl

@[simp] theorem ensures_tryCatch {m : Proc F σ ε α} {handle : ε → Proc F σ ε α} :
    (tryCatch m handle).Ensures h P Q s w ↔
      m.Ensures h P (fun r s' w' =>
        r.either (fun a => Q (.ok a) s' w') fun e => (handle e).Ensures h P Q s' w') s w := by
  refine Prog.always_bind.trans (iff_of_eq (congrArg (fun K => Prog.Always h P K (m s) w) ?_))
  funext ⟨r, s'⟩ w'
  cases r <;> rfl

@[simp] theorem ensures_discard {Q : Except ε Unit → σ → W → Prop} {m : Proc F σ ε α} :
    m.discard.Ensures h P Q s w ↔
      m.Ensures h P (fun r s' w' => Q (r.either (fun _ => .ok ()) .error) s' w') s w := by
  refine Prog.always_bind.trans (iff_of_eq (congrArg (fun K => Prog.Always h P K (m s) w) ?_))
  funext ⟨r, s'⟩ w'
  cases r <;> rfl

theorem ensures_congr {Q' : Except ε α → σ → W → Prop} {m : Proc F σ ε α}
    (hQ : ∀ r s w, Q r s w ↔ Q' r s w) : m.Ensures h P Q s w ↔ m.Ensures h P Q' s w := by
  have : Q = Q' := by
    funext r s w
    exact propext (hQ r s w)
  rw [this]

theorem ensures_ite {c : Prop} [Decidable c] {m n : Proc F σ ε α} :
    (if c then m else n).Ensures h P Q s w ↔
      (c → m.Ensures h P Q s w) ∧ (¬c → n.Ensures h P Q s w) := by
  by_cases hc : c <;> simp [hc]

theorem Ensures.mono {Q' : Except ε α → σ → W → Prop} {m : Proc F σ ε α}
    (hm : m.Ensures h P Q s w) (hQ : ∀ r s' w', Q r s' w' → Q' r s' w') : m.Ensures h P Q' s w :=
  Prog.Always.mono hm (fun _ _ => id) fun _ _ => hQ _ _ _

theorem Ensures.run {m : Proc F σ ε α} (hm : m.Ensures h P Q s w) :
    Q (m.run h s w).1.1 (m.run h s w).1.2 (m.run h s w).2 :=
  Prog.Always.run hm

/-- Whatever the replies, every call satisfies `K`, and what is returned or raised
satisfies `Q`. -/
def Calls (K : F.Call → Prop) (Q : Except ε α → Prop) (m : Proc F σ ε α) : Prop :=
  ∀ s, (m s).Calls K fun r => Q r.1

section Calls

variable {K : F.Call → Prop}

theorem Calls.pure {Q : Except ε α → Prop} {a : α} (h : Q (.ok a)) :
    (pure a : Proc F σ ε α).Calls K Q := fun _ => h

theorem Calls.throw {Q : Except ε α → Prop} {e : ε} (h : Q (.error e)) :
    (throw e : Proc F σ ε α).Calls K Q := fun _ => h

theorem Calls.ofExcept {Q : Except ε α → Prop} {r : Except ε α} (h : Q r) :
    (ofExcept r : Proc F σ ε α).Calls K Q := fun _ => h

theorem Calls.request {Q : Except ε α → Prop} {c : F.Call} {unpack : F.Reply c → Except ε α}
    (hc : K c) (h : ∀ r, Q (unpack r)) : (request F c unpack : Proc F σ ε α).Calls K Q :=
  fun _ => ⟨hc, h⟩

theorem Calls.bind {Q : Except ε β → Prop} {A : Except ε α → Prop} {m : Proc F σ ε α}
    {f : α → Proc F σ ε β} (hm : m.Calls K A) (hok : ∀ a, A (.ok a) → (f a).Calls K Q)
    (herror : ∀ e, A (.error e) → Q (.error e)) : (m >>= f).Calls K Q := by
  refine fun s => Prog.calls_bind.mpr ((hm s).mono ?_)
  rintro ⟨e | a, s'⟩ hr
  · exact herror e hr
  · exact hok a hr s'

/-- One step after another, saying nothing about results. -/
theorem Calls.seq {m : Proc F σ ε α} {f : α → Proc F σ ε β} (hm : m.Calls K fun _ => True)
    (hf : ∀ a, (f a).Calls K fun _ => True) : (m >>= f).Calls K fun _ => True :=
  Calls.bind hm (fun a _ => hf a) fun _ _ => trivial

theorem Calls.get : (get : Proc F σ ε σ).Calls K fun _ => True := fun _ => trivial

theorem Calls.modify {f : σ → σ} : (modify f : Proc F σ ε PUnit).Calls K fun _ => True :=
  fun _ => trivial

theorem Calls.embed {m : Proc F Unit ε α} (hm : m.Calls K fun _ => True) :
    (embed m : Proc F σ ε α).Calls K fun _ => True :=
  fun _ => Prog.calls_bind.mpr ((hm ()).mono fun _ _ => trivial)

theorem Calls.discard {m : Proc F σ ε α} (hm : m.Calls K fun _ => True) :
    m.discard.Calls K fun _ => True := Calls.seq hm fun _ => Calls.pure trivial

theorem Calls.permit {K' : F.Call → Prop} {Q : Except ε α → Prop} {m : Proc F σ ε α}
    (hm : m.Calls K Q) (hK : ∀ c, K c → K' c) : m.Calls K' Q := fun s => (hm s).permit hK

theorem Calls.tryCatch {Q A : Except ε α → Prop} {m : Proc F σ ε α} {handle : ε → Proc F σ ε α}
    (hm : m.Calls K A) (hok : ∀ a, A (.ok a) → Q (.ok a))
    (herror : ∀ e, A (.error e) → (handle e).Calls K Q) : (tryCatch m handle).Calls K Q := by
  refine fun s => Prog.calls_bind.mpr ((hm s).mono ?_)
  rintro ⟨e | a, s'⟩ hr
  · exact herror e hr s'
  · exact hok a hr

/-- A step with a handler, saying nothing about results. -/
theorem Calls.handle {m : Proc F σ ε α} {handle : ε → Proc F σ ε α}
    (hm : m.Calls K fun _ => True) (hhandle : ∀ e, (handle e).Calls K fun _ => True) :
    (MonadExcept.tryCatch m handle).Calls K fun _ => True :=
  Calls.tryCatch hm (fun _ _ => trivial) fun e _ => hhandle e

/-- What calls of a given kind keep, holds at the end. -/
theorem Calls.ensures {Q : Except ε α → Prop} {I : W → Prop} (hP : ∀ c w, K c → P c w)
    (hstep : ∀ c w, K c → I w → I (h c w).2) {m : Proc F σ ε α} (hm : m.Calls K Q) (hw : I w) :
    m.Ensures h P (fun r _ w => I w ∧ Q r) s w :=
  Prog.Calls.always hP hstep (hm s) hw

end Calls

theorem ensures_true_iff {m : Proc F σ ε α} :
    m.Ensures h (fun _ _ => True) Q s w ↔
      Q (m.run h s w).1.1 (m.run h s w).1.2 (m.run h s w).2 :=
  ⟨Ensures.run, fun hm => Prog.always_of_run hm⟩

end Proc
