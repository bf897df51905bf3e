import Velox.Lib.Effect

/-!
# Carrying out calls by programs

A call of one program can itself be a program over another signature. Replacing
every call by its program gives one program again, so that what is proved of the
parts holds of the whole, also where the whole is stopped inside a part.

## Main definitions

* `Signature.sum`, `Handler.both` — two signatures side by side
* `Handler.logged` — a handler that keeps the calls it was asked, with its replies
* `Prog.inl`, `Prog.inr`, `Proc.inl` — a program that makes calls of one side only
* `Proc.ofLeft`, `Proc.ofRight`, `Proc.attemptRight` — a program of one side as a step
* `Proc.mapError` — other exceptions in place of those raised
* `Prog.expand`, `Proc.expand` — every call replaced by a program
* `Proc.outcome` — a program with exceptions as the implementation of a call

## Main results

* `Prog.expand_bind`, `Proc.expand_bind`, `Proc.expand_tryCatch` — replacing
  calls respects composition and exceptions
* `Prog.always_inl`, `Proc.ensures_outcome_inr` — the rules for one side
* `Proc.ensures_expand_request` — the rule for a replaced call
* `Prog.Calls.expand` — the calls that are made in the end
-/

set_option autoImplicit false

/-- The calls of two signatures. -/
abbrev Signature.sum (F G : Signature) : Signature where
  Call := F.Call ⊕ G.Call
  Reply
    | .inl c => F.Reply c
    | .inr c => G.Reply c

namespace Handler

variable {F G : Signature} {V W : Type}

/-- Each side answers its own calls, in its own world. -/
def both (h : Handler F W) (k : Handler G V) : Handler (F.sum G) (W × V)
  | .inl c, w => ((h c w.1).1, ((h c w.1).2, w.2))
  | .inr c, w => ((k c w.2).1, (w.1, (k c w.2).2))

/-- Keep every call with its reply. -/
def logged (h : Handler F W) : Handler F (W × List (Σ c : F.Call, F.Reply c)) := fun c w =>
  ((h c w.1).1, ((h c w.1).2, w.2 ++ [⟨c, (h c w.1).1⟩]))

@[simp] theorem both_inl (h : Handler F W) (k : Handler G V) (c : F.Call) (w : W × V) :
    both h k (.inl c) w = ((h c w.1).1, ((h c w.1).2, w.2)) := rfl

@[simp] theorem both_inr (h : Handler F W) (k : Handler G V) (c : G.Call) (w : W × V) :
    both h k (.inr c) w = ((k c w.2).1, (w.1, (k c w.2).2)) := rfl

end Handler

namespace Prog

variable {F G : Signature} {α β γ V W : Type}

theorem bind_assoc (p : Prog F α) (f : α → Prog F β) (g : β → Prog F γ) :
    (p.bind f).bind g = p.bind fun a => (f a).bind g := by
  induction p with
  | ret a => rfl
  | call c next ih =>
    simp only [call_bind]
    congr 1
    funext r
    exact ih r

/-! ### Programs of one side -/

/-- A program that makes calls of the left side only. -/
def inl : Prog F α → Prog (F.sum G) α
  | .ret a => .ret a
  | .call c next => .call (.inl c) fun r => (next r).inl

/-- A program that makes calls of the right side only. -/
def inr : Prog G α → Prog (F.sum G) α
  | .ret a => .ret a
  | .call c next => .call (.inr c) fun r => (next r).inr

section Sides

variable {h : Handler F W} {k : Handler G V} {P : (F.sum G).Call → W × V → Prop}
  {Q : α → W × V → Prop} {w : W} {v : V}

/-- The left side leaves the world of the right side alone. -/
theorem always_inl {p : Prog F α} :
    p.inl.Always (Handler.both h k) P Q (w, v) ↔
      p.Always h (fun c w => P (.inl c) (w, v)) (fun a w => Q a (w, v)) w := by
  induction p generalizing w with
  | ret a => exact Iff.rfl
  | call c next ih => exact and_congr Iff.rfl (ih _)

/-- The right side leaves the world of the left side alone. -/
theorem always_inr {p : Prog G α} :
    p.inr.Always (Handler.both h k) P Q (w, v) ↔
      p.Always k (fun c v => P (.inr c) (w, v)) (fun a v => Q a (w, v)) v := by
  induction p generalizing v with
  | ret a => exact Iff.rfl
  | call c next ih => exact and_congr Iff.rfl (ih _)

theorem run_inl (p : Prog F α) :
    (p.inl : Prog (F.sum G) α).run (Handler.both h k) (w, v) =
      ((p.run h w).1, ((p.run h w).2, v)) := by
  induction p generalizing w with
  | ret a => rfl
  | call c next ih => exact ih _

theorem run_inr (p : Prog G α) :
    (p.inr : Prog (F.sum G) α).run (Handler.both h k) (w, v) =
      ((p.run k v).1, (w, (p.run k v).2)) := by
  induction p generalizing v with
  | ret a => rfl
  | call c next ih => exact ih _

end Sides

/-! ### Replacing calls -/

/-- Carry out every call by a program. -/
def expand (f : (c : F.Call) → Prog G (F.Reply c)) : Prog F α → Prog G α
  | .ret a => .ret a
  | .call c next => (f c).bind fun r => (next r).expand f

variable {f : (c : F.Call) → Prog G (F.Reply c)}

@[simp] theorem expand_ret (a : α) : (ret a : Prog F α).expand f = ret a := rfl

@[simp] theorem expand_call (c : F.Call) (next : F.Reply c → Prog F α) :
    (call c next).expand f = (f c).bind fun r => (next r).expand f := rfl

theorem expand_bind (p : Prog F α) (g : α → Prog F β) :
    (p.bind g).expand f = (p.expand f).bind fun a => (g a).expand f := by
  induction p with
  | ret a => rfl
  | call c next ih =>
    rw [call_bind, expand_call, expand_call, bind_assoc]
    congr 1
    funext r
    exact ih r

/-- The calls of a program of the right side. -/
theorem Calls.inr {K : (F.sum G).Call → Prop} {Q : α → Prop} {p : Prog G α}
    (hp : p.Calls (fun c => K (.inr c)) Q) : (p.inr : Prog (F.sum G) α).Calls K Q := by
  induction p with
  | ret a => exact hp
  | call c next ih => exact ⟨hp.1, fun r => ih r (hp.2 r)⟩

/-- The calls that are made when every call is carried out by a program. -/
theorem Calls.expand {K : F.Call → Prop} {K' : G.Call → Prop} {Q : α → Prop} {p : Prog F α}
    (hp : p.Calls K Q) (hf : ∀ c, K c → (f c).Calls K' fun _ => True) : (p.expand f).Calls K' Q := by
  induction p with
  | ret a => exact hp
  | call c next ih =>
    rw [expand_call, calls_bind]
    exact (hf c hp.1).mono fun r _ => ih r (hp.2 r)

/-- Carrying out the calls by programs and running the result is running with
each call carried out to its end. -/
theorem run_expand (h : Handler G W) (p : Prog F α) (w : W) :
    (p.expand f).run h w = p.run (fun c w => (f c).run h w) w := by
  induction p generalizing w with
  | ret a => rfl
  | call c next ih =>
    rw [expand_call, run_bind, run_call]
    exact ih _ _

end Prog

namespace Proc

variable {F G : Signature} {σ ε α β V W : Type}

/-- A program without local state, as the implementation of a call that replies
with a result or an exception. -/
def outcome (m : Proc G Unit ε α) : Prog G (Except ε α) := (m ()).bind fun r => .ret r.1

/-- Carry out every call by a program. -/
def expand (f : (c : F.Call) → Prog G (F.Reply c)) (m : Proc F σ ε α) : Proc G σ ε α := fun s =>
  (m s).expand f

/-- A program that makes calls of the left side only. -/
def inl (m : Proc F σ ε α) : Proc (F.sum G) σ ε α := fun s => (m s).inl

/-- Run a program of the left side and go on with what it returned. -/
def ofLeft (p : Prog F α) : Proc (F.sum G) σ ε α := fun s => p.inl.bind fun a => .ret (.ok a, s)

/-- Run a program of the right side for its result or exception. -/
def ofRight (p : Prog G (Except ε α)) : Proc (F.sum G) σ ε α := fun s =>
  p.inr.bind fun r => .ret (r, s)

/-- Raise other exceptions in place of those raised. -/
def mapError {ε' : Type} (g : ε → ε') (m : Proc F σ ε α) : Proc F σ ε' α := fun s =>
  (m s).bind fun r => .ret (r.1.mapError g, r.2)

/-- Run a program of the right side and go on with its result or exception. -/
def attemptRight {ε' : Type} (m : Proc G σ ε' α) : Proc (F.sum G) σ ε (Except ε' α) := fun s =>
  (m s).inr.bind fun r => .ret (.ok r.1, r.2)

section MapError

variable {ε' ε'' : Type} {g : ε → ε'}

@[simp] theorem mapError_pure (a : α) : (pure a : Proc F σ ε α).mapError g = pure a := rfl

@[simp] theorem mapError_ofExcept (r : Except ε α) :
    (ofExcept r : Proc F σ ε α).mapError g = ofExcept (r.mapError g) := rfl

theorem mapError_bind (m : Proc F σ ε α) (f : α → Proc F σ ε β) :
    (m >>= f).mapError g = m.mapError g >>= fun a => (f a).mapError g := by
  funext s
  refine (Prog.bind_assoc (m s) _ _).trans (.trans ?_ (Prog.bind_assoc (m s) _ _).symm)
  congr 1
  funext ⟨r, s'⟩
  cases r <;> rfl

theorem mapError_mapError (m : Proc F σ ε α) (g' : ε' → ε'') :
    (m.mapError g).mapError g' = m.mapError fun e => g' (g e) := by
  funext s
  refine (Prog.bind_assoc (m s) _ _).trans ?_
  congr 1
  funext ⟨r, s'⟩
  cases r <;> rfl

/-- Catching every exception to raise another. -/
theorem tryCatch_throw (m : Proc F σ ε α) (g : ε → ε) :
    (tryCatch m fun e => throw (g e)) = m.mapError g := by
  funext s
  show (m s).bind _ = (m s).bind _
  congr 1
  funext ⟨r, s'⟩
  cases r <;> rfl

end MapError

theorem bind_assoc {γ : Type} (m : Proc F σ ε α) (f : α → Proc F σ ε β) (k : β → Proc F σ ε γ) :
    m >>= f >>= k = m >>= fun a => f a >>= k := by
  funext s
  refine (Prog.bind_assoc (m s) _ _).trans ?_
  show (m s).bind _ = (m s).bind _
  congr 1
  funext ⟨r, s'⟩
  cases r <;> rfl

theorem calls_outcome {K : G.Call → Prop} {m : Proc G Unit ε α}
    (hm : (m ()).Calls K fun _ => True) : m.outcome.Calls K fun _ => True :=
  Prog.calls_bind.mpr (hm.mono fun _ _ => trivial)

variable {f : (c : F.Call) → Prog G (F.Reply c)}

@[simp] theorem expand_pure (a : α) : (pure a : Proc F σ ε α).expand f = pure a := rfl

@[simp] theorem expand_throw (e : ε) : (throw e : Proc F σ ε α).expand f = throw e := rfl

@[simp] theorem expand_ofExcept (r : Except ε α) :
    (ofExcept r : Proc F σ ε α).expand f = ofExcept r := rfl

theorem expand_bind (m : Proc F σ ε α) (g : α → Proc F σ ε β) :
    (m >>= g).expand f = m.expand f >>= fun a => (g a).expand f := by
  funext s
  refine (Prog.expand_bind (m s) _).trans ?_
  show (m.expand f s).bind _ = (m.expand f s).bind _
  congr 1
  funext ⟨r, s'⟩
  cases r <;> rfl

theorem expand_tryCatch (m : Proc F σ ε α) (handle : ε → Proc F σ ε α) :
    (tryCatch m handle).expand f = tryCatch (m.expand f) fun e => (handle e).expand f := by
  funext s
  refine (Prog.expand_bind (m s) _).trans ?_
  show (m.expand f s).bind _ = (m.expand f s).bind _
  congr 1
  funext ⟨r, s'⟩
  cases r <;> rfl

section Ensures

variable {h : Handler G W} {P : G.Call → W → Prop} {Q : Except ε α → σ → W → Prop} {s : σ} {w : W}

@[simp] theorem ensures_expand_pure {a : α} :
    ((pure a : Proc F σ ε α).expand f).Ensures h P Q s w ↔ Q (.ok a) s w := Iff.rfl

@[simp] theorem ensures_expand_throw {e : ε} :
    ((throw e : Proc F σ ε α).expand f).Ensures h P Q s w ↔ Q (.error e) s w := Iff.rfl

@[simp] theorem ensures_expand_ofExcept {r : Except ε α} :
    ((ofExcept r : Proc F σ ε α).expand f).Ensures h P Q s w ↔ Q r s w := Iff.rfl

@[simp] theorem ensures_expand_bind {Q : Except ε β → σ → W → Prop} {m : Proc F σ ε α}
    {g : α → Proc F σ ε β} :
    ((m >>= g).expand f).Ensures h P Q s w ↔
      (m.expand f).Ensures h P (fun r s' w' =>
        r.either (fun a => ((g a).expand f).Ensures h P Q s' w') fun e => Q (.error e) s' w') s
        w := by
  rw [expand_bind]
  exact ensures_bind

@[simp] theorem ensures_expand_tryCatch {m : Proc F σ ε α} {handle : ε → Proc F σ ε α} :
    ((tryCatch m handle).expand f).Ensures h P Q s w ↔
      (m.expand f).Ensures h P (fun r s' w' =>
        r.either (fun a => Q (.ok a) s' w') fun e => ((handle e).expand f).Ensures h P Q s' w') s
        w := by
  rw [expand_tryCatch]
  exact ensures_tryCatch

theorem ensures_expand_ite {c : Prop} [Decidable c] {m n : Proc F σ ε α} :
    ((if c then m else n).expand f).Ensures h P Q s w ↔
      (c → (m.expand f).Ensures h P Q s w) ∧ (¬c → (n.expand f).Ensures h P Q s w) := by
  by_cases hc : c <;> simp [hc]

/-- A replaced call: its program is run, and its reply unpacked. -/
theorem ensures_expand_request {c : F.Call} {unpack : F.Reply c → Except ε α} :
    ((request F c unpack).expand f).Ensures h P Q s w ↔
      (f c).Always h P (fun r w' => Q (unpack r) s w') w := Prog.always_bind

end Ensures

section Sides

variable {h : Handler F W} {k : Handler G V} {P : (F.sum G).Call → W × V → Prop} {w : W} {v : V}

/-- A call that a program of the right side carries out. -/
theorem ensures_outcome_inr {Q : Except ε α → W × V → Prop} {m : Proc G Unit ε α} :
    (m.outcome.inr : Prog (F.sum G) (Except ε α)).Always (Handler.both h k) P Q (w, v) ↔
      m.Ensures k (fun c v => P (.inr c) (w, v)) (fun r _ v => Q r (w, v)) () v :=
  Prog.always_inr.trans Prog.always_bind

/-- A program none of whose calls is replaced. -/
theorem ensures_inl {Q : Except ε α → σ → W × V → Prop} {m : Proc F σ ε α} {s : σ} :
    (m.inl : Proc (F.sum G) σ ε α).Ensures (Handler.both h k) P Q s (w, v) ↔
      m.Ensures h (fun c w => P (.inl c) (w, v)) (fun r s w => Q r s (w, v)) s w :=
  Prog.always_inl

variable {ε' : Type} {s s' : σ} {w' : W} {v' : V} {f : α → Proc F σ ε β}

/-- After a step that returned, the program goes on. -/
theorem run_bind_of_ok {m : Proc F σ ε α} {a : α} (hm : m.run h s w = ((.ok a, s'), w')) :
    (m >>= f).run h s w = (f a).run h s' w' := by
  refine (Prog.run_bind h (m s) _ w).trans ?_
  rw [show (m s).run h w = ((.ok a, s'), w') from hm]
  rfl

/-- After a step that raised, the program is over. -/
theorem run_bind_of_error {m : Proc F σ ε α} {e : ε} (hm : m.run h s w = ((.error e, s'), w')) :
    (m >>= f).run h s w = ((.error e, s'), w') := by
  refine (Prog.run_bind h (m s) _ w).trans ?_
  rw [show (m s).run h w = ((.error e, s'), w') from hm]
  rfl

theorem run_ofExcept_bind_ok {a : α} {f : α → Proc F σ ε β} :
    (Proc.ofExcept (.ok a : Except ε α) >>= f).run h s w = (f a).run h s w := run_bind_of_ok rfl

theorem run_ofExcept_bind_error {e : ε} {f : α → Proc F σ ε β} :
    (Proc.ofExcept (.error e : Except ε α) >>= f).run h s w = ((.error e, s), w) :=
  run_bind_of_error rfl

/-- A step that returned is not handled. -/
theorem run_tryCatch_of_ok {m : Proc F σ ε α} {handle : ε → Proc F σ ε α} {a : α}
    (hm : m.run h s w = ((.ok a, s'), w')) :
    (tryCatch m handle).run h s w = ((.ok a, s'), w') := by
  refine (Prog.run_bind h (m s) _ w).trans ?_
  rw [show (m s).run h w = ((.ok a, s'), w') from hm]
  rfl

/-- A step that raised is handled where it stopped. -/
theorem run_tryCatch_of_error {m : Proc F σ ε α} {handle : ε → Proc F σ ε α} {e : ε}
    (hm : m.run h s w = ((.error e, s'), w')) :
    (tryCatch m handle).run h s w = (handle e).run h s' w' := by
  refine (Prog.run_bind h (m s) _ w).trans ?_
  rw [show (m s).run h w = ((.error e, s'), w') from hm]
  rfl

/-- A call, by what its handler does. -/
theorem run_request_of_eq {c : F.Call} {unpack : F.Reply c → Except ε α} {r : F.Reply c}
    (hc : h c w = (r, w')) : (request F c unpack : Proc F σ ε α).run h s w = ((unpack r, s), w') := by
  show ((unpack (h c w).1, s), (h c w).2) = _
  rw [hc]

theorem run_ofLeft (p : Prog F α) :
    (ofLeft p : Proc (F.sum G) σ ε α).run (Handler.both h k) s (w, v) =
      ((.ok (p.run h w).1, s), ((p.run h w).2, v)) := by
  refine (Prog.run_bind (Handler.both h k) _ _ _).trans ?_
  rw [Prog.run_inl]
  rfl

theorem run_attemptRight (m : Proc G σ ε' α) :
    (attemptRight m : Proc (F.sum G) σ ε (Except ε' α)).run (Handler.both h k) s (w, v) =
      ((.ok (m.run k s v).1.1, (m.run k s v).1.2), (w, (m.run k s v).2)) := by
  refine (Prog.run_bind (Handler.both h k) _ _ _).trans ?_
  rw [Prog.run_inr]
  rfl

end Sides

end Proc
