import Velox.Lib.Substitution

/-!
# What a program has seen

Properties of a program whatever its calls are answered with: a call may only be
made once the exchanges before it have shown enough, and what is returned is backed
by the exchanges that led to it.

## Main definitions

* `Exchange` — a call with its reply
* `Prog.Traced`, `Proc.Traced` — what holds of every call and of the result, given
  the exchanges so far
* `Proc.Finds` — the same, saying nothing about exceptions
* `Replays` — exchanges as a handler answers them

## Main results

* `Proc.traced_bind`, `Proc.traced_tryCatch`, `Proc.finds_bind` — the rules
* `Prog.Traced.logged` — a handler that keeps its exchanges
* `Prog.Traced.transcript`, `Prog.Traced.result` — the calls and the result of a run
* `Prog.Traced.expand` — when every call is carried out by a program
* `Prog.replays_transcript` — the exchanges of a run are those of its handler
-/

set_option autoImplicit false

/-- A call with its reply. -/
abbrev Exchange (F : Signature) := Σ c : F.Call, F.Reply c

/-- An exchange of the right side. -/
def Exchange.inr {F G : Signature} (e : Exchange G) : Exchange (F.sum G) := ⟨.inr e.1, e.2⟩

/-- The exchanges are what a handler answers from one world on, and lead to another. -/
def Replays {F : Signature} {V : Type} (h : Handler F V) : V → List (Exchange F) → V → Prop
  | v, [], v' => v = v'
  | v, e :: t, v' => (h e.1 v).1 = e.2 ∧ Replays h (h e.1 v).2 t v'

namespace Prog

variable {F : Signature} {α β V : Type} {K : List (Exchange F) → F.Call → Prop}
  {t : List (Exchange F)}

/-- Whatever the replies, every call satisfies `K` after the exchanges so far, and
the result satisfies `A` after all of them. -/
def Traced (K : List (Exchange F) → F.Call → Prop) (A : List (Exchange F) → α → Prop) :
    Prog F α → List (Exchange F) → Prop
  | .ret a, t => A t a
  | .call c next, t => K t c ∧ ∀ r, (next r).Traced K A (t ++ [⟨c, r⟩])

@[simp] theorem traced_ret {A : List (Exchange F) → α → Prop} {a : α} :
    (ret a : Prog F α).Traced K A t ↔ A t a := Iff.rfl

@[simp] theorem traced_call {A : List (Exchange F) → α → Prop} {c : F.Call}
    {next : F.Reply c → Prog F α} :
    (call c next).Traced K A t ↔ K t c ∧ ∀ r, (next r).Traced K A (t ++ [⟨c, r⟩]) := Iff.rfl

theorem traced_bind {A : List (Exchange F) → β → Prop} {p : Prog F α} {f : α → Prog F β} :
    (p.bind f).Traced K A t ↔ p.Traced K (fun t a => (f a).Traced K A t) t := by
  induction p generalizing t with
  | ret a => exact Iff.rfl
  | call c next ih => exact and_congr Iff.rfl (forall_congr' fun r => ih r)

theorem Traced.mono {A A' : List (Exchange F) → α → Prop} {p : Prog F α} (hp : p.Traced K A t)
    (hA : ∀ t' a, t <+: t' → A t' a → A' t' a) : p.Traced K A' t := by
  induction p generalizing t with
  | ret a => exact hA t a (List.prefix_refl t) hp
  | call c next ih =>
    refine ⟨hp.1, fun r => ih r (hp.2 r) fun t' a ht' => ?_⟩
    exact hA t' a ((List.prefix_append t _).trans ht')

/-- A more permissive condition on the calls. -/
theorem Traced.permit {K' : List (Exchange F) → F.Call → Prop}
    {A : List (Exchange F) → α → Prop} {p : Prog F α} (hp : p.Traced K A t)
    (hK : ∀ t' c, t <+: t' → K t' c → K' t' c) : p.Traced K' A t := by
  induction p generalizing t with
  | ret a => exact hp
  | call c next ih =>
    refine ⟨hK t c (List.prefix_refl t) hp.1, fun r => ih r (hp.2 r) fun t' c' ht' => ?_⟩
    exact hK t' c' ((List.prefix_append t _).trans ht')

/-- Where only calls of one kind are made, the exchanges that are added are of that
kind. -/
theorem Traced.only {P : F.Call → Prop} {A : List (Exchange F) → α → Prop} {p : Prog F α}
    (hp : p.Traced (fun _ c => P c) A t) :
    p.Traced (fun _ c => P c) (fun t' a => A t' a ∧ ∃ new, t' = t ++ new ∧ ∀ e ∈ new, P e.1) t := by
  induction p generalizing t with
  | ret a => exact ⟨hp, [], (List.append_nil t).symm, fun e he => nomatch he⟩
  | call c next ih =>
    refine ⟨hp.1, fun r => (ih r (hp.2 r)).mono fun t' a _ h => ⟨h.1, ?_⟩⟩
    obtain ⟨new, rfl, hnew⟩ := h.2
    refine ⟨⟨c, r⟩ :: new, List.append_assoc .., fun e he => ?_⟩
    rcases List.mem_cons.mp he with rfl | he
    · exact hp.1
    · exact hnew e he

/-- What holds of every call holds of the calls of a run. -/
theorem Traced.transcript {A : List (Exchange F) → α → Prop} {p : Prog F α} (hp : p.Traced K A t)
    (h : Handler F V) (v : V) {before after : List (Exchange F)} {e : Exchange F}
    (hrun : p.transcript h v = before ++ e :: after) : K (t ++ before) e.1 := by
  induction p generalizing t v before with
  | ret a => exact absurd hrun (List.append_ne_nil_of_right_ne_nil before (List.cons_ne_nil e after)).symm
  | call c next ih =>
    rw [transcript_call] at hrun
    cases before with
    | nil =>
      obtain ⟨rfl, -⟩ := List.cons.inj hrun
      rw [List.append_nil]
      exact hp.1
    | cons first before =>
      obtain ⟨rfl, hrest⟩ := List.cons.inj hrun
      have hlater := ih _ (hp.2 _) _ hrest
      rwa [List.append_assoc] at hlater

/-- What holds of the result holds of that of a run. -/
theorem Traced.result {A : List (Exchange F) → α → Prop} {p : Prog F α} (hp : p.Traced K A t)
    (h : Handler F V) (v : V) : A (t ++ p.transcript h v) (p.run h v).1 := by
  induction p generalizing t v with
  | ret a =>
    rw [transcript_ret, List.append_nil]
    exact hp
  | call c next ih =>
    have hlater := ih _ (hp.2 (h c v).1) (h c v).2
    rwa [List.append_assoc] at hlater

/-- The exchanges of a run are those of its handler. -/
theorem replays_transcript (h : Handler F V) (p : Prog F α) (v : V) :
    Replays h v (p.transcript h v) (p.run h v).2 := by
  induction p generalizing v with
  | ret a => rfl
  | call c next ih => exact ⟨rfl, ih _ _⟩

/-- When every call is carried out by a program: `R` relates the exchanges of the calls to
those of the programs. -/
theorem Traced.expand {G : Signature} {f : (c : F.Call) → Prog G (F.Reply c)}
    {K' : List (Exchange G) → G.Call → Prop} {R : List (Exchange F) → List (Exchange G) → Prop}
    (hf : ∀ c t t', K t c → R t t' →
      (f c).Traced K' (fun t'' r => R (t ++ [⟨c, r⟩]) t'') t')
    {A : List (Exchange F) → α → Prop} {p : Prog F α} (hp : p.Traced K A t) {t' : List (Exchange G)}
    (ht : R t t') : (p.expand f).Traced K' (fun t'' a => ∃ t, R t t'' ∧ A t a) t' := by
  induction p generalizing t t' with
  | ret a => exact ⟨t, ht, hp⟩
  | call c next ih =>
    rw [expand_call, traced_bind]
    exact (hf c t t' hp.1 ht).mono fun t'' r _ hr => ih r (hp.2 r) hr

/-- A program of the right side, after what both sides were asked before. -/
theorem Traced.inr {G : Signature} {K' : List (Exchange G) → G.Call → Prop}
    {A : List (Exchange G) → α → Prop} {p : Prog G α} {t' : List (Exchange G)}
    (hp : p.Traced K' A t') {before : List (Exchange (F.sum G))}
    {K : List (Exchange (F.sum G)) → (F.sum G).Call → Prop}
    (hK : ∀ t' c, K' t' c → K (before ++ t'.map Exchange.inr) (.inr c)) :
    (p.inr : Prog (F.sum G) α).Traced K
      (fun t a => ∃ t', t = before ++ t'.map Exchange.inr ∧ A t' a)
      (before ++ t'.map Exchange.inr) := by
  induction p generalizing t' with
  | ret a => exact ⟨t', rfl, hp⟩
  | call c next ih =>
    refine ⟨hK t' c hp.1, fun r => ?_⟩
    have hlater := ih r (hp.2 r)
    rw [List.map_append, ← List.append_assoc] at hlater
    exact hlater

/-- Whatever the replies, every call is of one kind. -/
theorem Calls.traced {P : F.Call → Prop} {Q : α → Prop} {p : Prog F α} (hp : p.Calls P Q)
    (t : List (Exchange F)) : p.Traced (fun _ c => P c) (fun _ a => Q a) t := by
  induction p generalizing t with
  | ret a => exact hp
  | call c next ih => exact ⟨hp.1, fun r => ih r (hp.2 r) _⟩

/-- What every call of a kind keeps. -/
theorem Calls.traced_keeps {P : F.Call → Prop} {I : List (Exchange F) → Prop} {Q : α → Prop}
    (hK : ∀ t c, P c → I t → K t c) (hI : ∀ t c r, P c → I t → I (t ++ [⟨c, r⟩])) {p : Prog F α}
    (hp : p.Calls P Q) (ht : I t) : p.Traced K (fun t a => Q a ∧ I t) t := by
  induction p generalizing t with
  | ret a => exact ⟨hp, ht⟩
  | call c next ih => exact ⟨hK t c hp.1 ht, fun r => ih r (hp.2 r) (hI t c r hp.1 ht)⟩

/-- The kinds of the calls, leaving the exchanges out. -/
theorem Traced.calls {P : F.Call → Prop} {A : List (Exchange F) → α → Prop} {p : Prog F α}
    (hp : p.Traced K A t) (hK : ∀ t' c, K t' c → P c) : p.Calls P fun _ => True := by
  induction p generalizing t with
  | ret a => exact trivial
  | call c next ih => exact ⟨hK t c hp.1, fun r => ih r (hp.2 r)⟩

/-- A handler that keeps its exchanges keeps those of the run. -/
theorem run_logged (h : Handler F V) (p : Prog F α) (v : V) :
    p.run h.logged (v, t) = ((p.run h v).1, ((p.run h v).2, t ++ p.transcript h v)) := by
  induction p generalizing v t with
  | ret a =>
    rw [transcript_ret, List.append_nil]
    rfl
  | call c next ih =>
    have hrest := ih (h c v).1 (t := t ++ [⟨c, (h c v).1⟩]) (h c v).2
    rw [List.append_assoc] at hrest
    exact hrest

/-- Under a handler that keeps its exchanges. -/
theorem Traced.logged {A : List (Exchange F) → α → Prop} {p : Prog F α} (hp : p.Traced K A t)
    (h : Handler F V) (v : V) :
    p.Always h.logged (fun c x => K x.2 c) (fun a x => A x.2 a) (v, t) := by
  induction p generalizing t v with
  | ret a => exact hp
  | call c next ih => exact ⟨hp.1, ih _ (hp.2 _) _⟩

end Prog

namespace Proc

section Request

variable {F : Signature} {σ ε α β V : Type} {h : Handler F V} {v : V} {s : σ}

theorem pure_bind (a : α) (f : α → Proc F σ ε β) : (pure a : Proc F σ ε α) >>= f = f a := rfl

theorem ofExcept_ok_bind (a : α) (f : α → Proc F σ ε β) :
    ((ofExcept (.ok a) : Proc F σ ε α) >>= f) = f a := rfl

/-- A call comes first, and what follows depends on its reply. -/
theorem transcript_request_bind (c : F.Call) (unpack : F.Reply c → Except ε α)
    (f : α → Proc F σ ε β) :
    ((request F c unpack >>= f : Proc F σ ε β) s).transcript h v =
      ⟨c, (h c v).1⟩ :: ((ofExcept (unpack (h c v).1) >>= f : Proc F σ ε β) s).transcript h
        (h c v).2 := rfl

theorem run_request_bind (c : F.Call) (unpack : F.Reply c → Except ε α) (f : α → Proc F σ ε β) :
    (request F c unpack >>= f : Proc F σ ε β).run h s v =
      (ofExcept (unpack (h c v).1) >>= f : Proc F σ ε β).run h s (h c v).2 := rfl

end Request

variable {F : Signature} {σ ε α β : Type} {K : List (Exchange F) → F.Call → Prop}
  {t : List (Exchange F)}

/-- Whatever the replies, every call satisfies `K` after the exchanges so far, and the
result or exception satisfies `A` after all of them. -/
def Traced (K : List (Exchange F) → F.Call → Prop)
    (A : List (Exchange F) → Except ε α → σ → Prop) (m : Proc F σ ε α) (s : σ)
    (t : List (Exchange F)) : Prop :=
  (m s).Traced K (fun t r => A t r.1 r.2) t

section Traced

variable {A : List (Exchange F) → Except ε α → σ → Prop} {s : σ}

@[simp] theorem traced_pure {a : α} : (pure a : Proc F σ ε α).Traced K A s t ↔ A t (.ok a) s :=
  Iff.rfl

@[simp] theorem traced_throw {e : ε} :
    (throw e : Proc F σ ε α).Traced K A s t ↔ A t (.error e) s := Iff.rfl

@[simp] theorem traced_ofExcept {r : Except ε α} :
    (ofExcept r : Proc F σ ε α).Traced K A s t ↔ A t r s := Iff.rfl

@[simp] theorem traced_request {c : F.Call} {unpack : F.Reply c → Except ε α} :
    (request F c unpack : Proc F σ ε α).Traced K A s t ↔
      K t c ∧ ∀ r, A (t ++ [⟨c, r⟩]) (unpack r) s := Iff.rfl

@[simp] theorem traced_bind {A : List (Exchange F) → Except ε β → σ → Prop} {m : Proc F σ ε α}
    {f : α → Proc F σ ε β} :
    (m >>= f).Traced K A s t ↔
      m.Traced K (fun t r s => r.either (fun a => (f a).Traced K A s t) fun e => A t (.error e) s)
        s t := by
  refine Prog.traced_bind.trans (iff_of_eq (congrArg (fun B => Prog.Traced K B (m s) t) ?_))
  funext t' ⟨r, s'⟩
  cases r <;> rfl

@[simp] theorem traced_tryCatch {m : Proc F σ ε α} {handle : ε → Proc F σ ε α} :
    (tryCatch m handle).Traced K A s t ↔
      m.Traced K (fun t r s => r.either (fun a => A t (.ok a) s) fun e =>
        (handle e).Traced K A s t) s t := by
  refine Prog.traced_bind.trans (iff_of_eq (congrArg (fun B => Prog.Traced K B (m s) t) ?_))
  funext t' ⟨r, s'⟩
  cases r <;> rfl

theorem traced_ite {c : Prop} [Decidable c] {m n : Proc F σ ε α} :
    (if c then m else n).Traced K A s t ↔
      (c → m.Traced K A s t) ∧ (¬c → n.Traced K A s t) := by
  by_cases hc : c <;> simp [hc]

theorem traced_mapError {ε' : Type} {A : List (Exchange F) → Except ε' α → σ → Prop}
    {g : ε → ε'} {m : Proc F σ ε α} :
    (m.mapError g).Traced K A s t ↔ m.Traced K (fun t r s => A t (r.mapError g) s) s t :=
  Prog.traced_bind

theorem Traced.mono {A' : List (Exchange F) → Except ε α → σ → Prop} {m : Proc F σ ε α}
    (hm : m.Traced K A s t) (hA : ∀ t' r s', t <+: t' → A t' r s' → A' t' r s') :
    m.Traced K A' s t := Prog.Traced.mono hm fun _ _ => hA _ _ _

/-- What follows a result that is already known. -/
theorem Traced.ofExcept_bind {A : List (Exchange F) → Except ε β → σ → Prop} {r : Except ε α}
    {f : α → Proc F σ ε β} (hok : ∀ a, r = .ok a → (f a).Traced K A s t)
    (herror : ∀ e, r = .error e → A t (.error e) s) :
    ((ofExcept r : Proc F σ ε α) >>= f).Traced K A s t := by
  rw [traced_bind, traced_ofExcept]
  cases r with
  | error e => exact herror e rfl
  | ok a => exact hok a rfl

/-- What follows a call. -/
theorem Traced.request_bind {A : List (Exchange F) → Except ε β → σ → Prop} {c : F.Call}
    {unpack : F.Reply c → Except ε α} {f : α → Proc F σ ε β} (hc : K t c)
    (hok : ∀ r a, unpack r = .ok a → (f a).Traced K A s (t ++ [⟨c, r⟩]))
    (herror : ∀ r e, unpack r = .error e → A (t ++ [⟨c, r⟩]) (.error e) s) :
    ((request F c unpack : Proc F σ ε α) >>= f).Traced K A s t := by
  rw [traced_bind, traced_request]
  refine ⟨hc, fun r => ?_⟩
  cases hr : unpack r with
  | error e => exact herror r e hr
  | ok a => exact hok r a hr

/-- What holds of the exchanges after a step holds when the next one begins. -/
theorem Traced.seq {I J : List (Exchange F) → Prop} {m : Proc F σ ε α} {f : α → Proc F σ ε β}
    (hm : m.Traced K (fun t _ _ => I t) s t) (hIJ : ∀ t, I t → J t)
    (hf : ∀ a s t, I t → (f a).Traced K (fun t _ _ => J t) s t) :
    (m >>= f).Traced K (fun t _ _ => J t) s t := by
  rw [traced_bind]
  refine hm.mono fun t r s _ ht => ?_
  cases r with
  | error e => exact hIJ t ht
  | ok a => exact hf a s t ht

/-- What a step establishes was established before what follows it returns. -/
theorem Traced.guard {I : List (Exchange F) → Prop} {m : Proc F σ ε α} {f : α → Proc F σ ε β}
    (hm : m.Traced K (fun t r _ => ∀ a, r = .ok a → I t) s t)
    (hf : ∀ a s t, I t → (f a).Traced K (fun _ _ _ => True) s t) :
    (m >>= f).Traced K (fun t r _ => ∀ b, r = .ok b → ∃ before, before <+: t ∧ I before) s t := by
  rw [traced_bind]
  refine hm.mono fun t r s _ ht => ?_
  cases r with
  | error e => rintro b ⟨⟩
  | ok a =>
    have hafter : (f a).Traced K
        (fun t r _ => ∀ b, r = .ok b → ∃ before, before <+: t ∧ I before) s t :=
      (hf a s t (ht a rfl)).mono fun t' r s' hprefix _ b _ => ⟨t, hprefix, ht a rfl⟩
    exact hafter

theorem traced_get {A : List (Exchange F) → Except ε σ → σ → Prop} :
    (get : Proc F σ ε σ).Traced K A s t ↔ A t (.ok s) s := Iff.rfl

theorem traced_modify {A : List (Exchange F) → Except ε PUnit → σ → Prop} {f : σ → σ} :
    (modify f : Proc F σ ε PUnit).Traced K A s t ↔ A t (.ok ()) (f s) := Iff.rfl

theorem traced_embed {A : List (Exchange F) → Except ε α → σ → Prop} {m : Proc F Unit ε α} :
    (embed m : Proc F σ ε α).Traced K A s t ↔ m.Traced K (fun t r _ => A t r s) () t :=
  Prog.traced_bind

/-- A program with exceptions as the implementation of a call. -/
theorem traced_outcome {A : List (Exchange F) → Except ε α → Prop} {m : Proc F Unit ε α} :
    m.outcome.Traced K A t ↔ m.Traced K (fun t r _ => A t r) () t := Prog.traced_bind

/-- Where only calls of one kind are made, the exchanges that are added are of that
kind. -/
theorem Calls.traced {P : F.Call → Prop} {Q : Except ε α → Prop} {m : Proc F σ ε α}
    (hm : m.Calls P Q) (s : σ) (t : List (Exchange F)) :
    m.Traced (fun _ _ => True)
      (fun t' r _ => Q r ∧ ∃ new, t' = t ++ new ∧ ∀ e ∈ new, P e.1) s t :=
  ((Prog.Calls.traced (hm s) t).only).permit fun _ _ _ _ => trivial

end Traced

/-! ### Saying nothing about exceptions -/

/-- Whatever the replies, every call satisfies `K` after the exchanges so far, and what
is returned satisfies `B` after all of them. -/
def Finds (K : List (Exchange F) → F.Call → Prop) (B : List (Exchange F) → α → Prop)
    (m : Proc F Unit ε α) (t : List (Exchange F)) : Prop :=
  m.Traced K (fun t r _ => ∀ a, r = .ok a → B t a) () t

section Finds

variable {B : List (Exchange F) → α → Prop}

@[simp] theorem finds_pure {a : α} : (pure a : Proc F Unit ε α).Finds K B t ↔ B t a :=
  ⟨fun h => h a rfl, fun h _ ha => Except.ok.inj ha ▸ h⟩

@[simp] theorem finds_throw {e : ε} : (throw e : Proc F Unit ε α).Finds K B t ↔ True :=
  iff_true_intro fun _ ha => nomatch ha

@[simp] theorem finds_ofExcept {r : Except ε α} :
    (ofExcept r : Proc F Unit ε α).Finds K B t ↔ ∀ a, r = .ok a → B t a := Iff.rfl

@[simp] theorem finds_request {c : F.Call} {unpack : F.Reply c → Except ε α} :
    (request F c unpack : Proc F Unit ε α).Finds K B t ↔
      K t c ∧ ∀ r a, unpack r = .ok a → B (t ++ [⟨c, r⟩]) a := Iff.rfl

@[simp] theorem finds_bind {B : List (Exchange F) → β → Prop} {m : Proc F Unit ε α}
    {f : α → Proc F Unit ε β} :
    (m >>= f).Finds K B t ↔ m.Finds K (fun t a => (f a).Finds K B t) t := by
  refine traced_bind.trans (iff_of_eq (congrArg (fun A => Proc.Traced K A m () t) ?_))
  funext t' r u
  cases r <;> simp [Finds]

/-- Replacing an exception does not change what is returned. -/
@[simp] theorem finds_tryCatch_throw {m : Proc F Unit ε α} {replace : ε → ε} :
    (tryCatch m fun e => throw (replace e)).Finds K B t ↔ m.Finds K B t := by
  refine traced_tryCatch.trans (iff_of_eq (congrArg (fun A => Proc.Traced K A m () t) ?_))
  funext t' r u
  cases r <;> simp

theorem finds_ite {c : Prop} [Decidable c] {m n : Proc F Unit ε α} :
    (if c then m else n).Finds K B t ↔ (c → m.Finds K B t) ∧ (¬c → n.Finds K B t) := by
  by_cases hc : c <;> simp [hc]

@[simp] theorem finds_discard {B : List (Exchange F) → Unit → Prop} {m : Proc F Unit ε α} :
    m.discard.Finds K B t ↔ m.Finds K (fun t _ => B t ()) t :=
  (finds_bind (m := m) (f := fun _ => pure ())).trans (iff_of_eq (by simp only [finds_pure]))

theorem Finds.permit {K' : List (Exchange F) → F.Call → Prop} {m : Proc F Unit ε α}
    (hm : m.Finds K B t) (hK : ∀ t' c, t <+: t' → K t' c → K' t' c) : m.Finds K' B t :=
  Prog.Traced.permit hm hK

/-- Where only calls of one kind are made, the exchanges that are added are of that
kind. -/
theorem Finds.only {P : F.Call → Prop} {m : Proc F Unit ε α} (hm : m.Finds (fun _ c => P c) B t) :
    m.Finds (fun _ c => P c) (fun t' a => B t' a ∧ ∃ new, t' = t ++ new ∧ ∀ e ∈ new, P e.1) t :=
  Prog.Traced.mono (Prog.Traced.only hm) fun _ _ _ h a ha => ⟨h.1 a ha, h.2⟩

theorem Calls.finds {P : F.Call → Prop} {m : Proc F Unit ε α} (hm : m.Calls P fun _ => True)
    (t : List (Exchange F)) : m.Finds (fun _ c => P c) (fun _ _ => True) t :=
  (Prog.Calls.traced (hm ()) t).mono fun _ _ _ _ _ _ => trivial

theorem Finds.mono {B' : List (Exchange F) → α → Prop} {m : Proc F Unit ε α} (hm : m.Finds K B t)
    (hB : ∀ t' a, t <+: t' → B t' a → B' t' a) : m.Finds K B' t :=
  Traced.mono hm fun t' _ _ ht' hr a ha => hB t' a ht' (hr a ha)

/-- One step after another. -/
theorem Finds.seq {C : List (Exchange F) → β → Prop} {m : Proc F Unit ε α} {f : α → Proc F Unit ε β}
    (hm : m.Finds K B t) (hf : ∀ t a, B t a → (f a).Finds K C t) : (m >>= f).Finds K C t :=
  finds_bind.mpr (hm.mono fun t a _ => hf t a)

/-- What follows a result that is already known. -/
theorem Finds.ofExcept_bind {C : List (Exchange F) → β → Prop} {r : Except ε α}
    {f : α → Proc F Unit ε β} (hf : ∀ a, r = .ok a → (f a).Finds K C t) :
    (ofExcept r >>= f).Finds K C t :=
  finds_bind.mpr hf

/-- A step with a handler. -/
theorem Finds.handle {m : Proc F Unit ε α} {handle : ε → Proc F Unit ε α} (hm : m.Finds K B t)
    (hhandle : ∀ t e, (handle e).Finds K B t) : (tryCatch m handle).Finds K B t := by
  apply traced_tryCatch.mpr
  refine Traced.mono hm fun t' r _ _ hr => ?_
  cases r with
  | ok a => exact fun a' ha' => hr a' ha'
  | error e => exact hhandle t' e

/-- What a run returns is backed by its exchanges. -/
theorem Finds.run {V : Type} {m : Proc F Unit ε α} (hm : m.Finds K B t) (h : Handler F V) {v : V}
    {a : α} (ha : (m.run h () v).1.1 = .ok a) : B (t ++ (m ()).transcript h v) a :=
  Prog.Traced.result hm h v a ha

end Finds

end Proc
