import Velox.Lib.Effect

/-!
# Machines behind calls, and faults

What calls do when nothing goes wrong is a deterministic machine. A handler follows
the machine when every call does what the machine does or, where faults are
possible, reports a failure, before or after the call took effect.

A program is then traced through the machine: either it comes to the result the
machine leads to, or a fault makes it raise.

## Main definitions

* `Signature.restrict`, `Handler.restrict` — some of the calls only
* `Machine`, `Machine.Follows` — a machine, and the handlers that follow it
* `Machine.FollowsAt` — a handler that follows it in one call
* `Proc.Yields` — what a program comes to from a state of the machine
* `Proc.Raises` — what a program raises from a state of the machine

## Main results

* `Proc.Yields.bind`, `Proc.Yields.tryCatch`, `Proc.Yields.handled`,
  `Proc.yields_request` — tracing a program
* `Proc.yields_request_restrict` — the same where the machine knows some of the calls
* `Proc.Yields.run` — without faults the program comes to its result
* `Prog.Always.interrupt_of` — what holds wherever the program is stopped
-/

set_option autoImplicit false

/-- What holds at every call and at the end holds wherever the program is stopped. -/
theorem Prog.Always.interrupt_of {F : Signature} {W α : Type} {h : Handler F W}
    {P : F.Call → W → Prop} {Q : α → W → Prop} {I : W → Prop} {p : Prog F α} {w : W}
    (hp : p.Always h P Q w) (hcall : ∀ c w, P c w → I w) (hend : ∀ a w, Q a w → I w) (n : ℕ) :
    I (p.interrupt h n w) := by
  induction n generalizing p w with
  | zero =>
    cases p with
    | ret a => exact hend a w hp
    | call c next => exact hcall c w hp.1
  | succ n ih =>
    cases p with
    | ret a => exact hend a w hp
    | call c next => exact ih hp.2

/-- Some of the calls of a signature, with the replies they have there. -/
abbrev Signature.restrict (F : Signature) {C : Type} (e : C → F.Call) : Signature where
  Call := C
  Reply c := F.Reply (e c)

/-- A handler, asked some of its calls only. -/
def Handler.restrict {F : Signature} {C W : Type} (h : Handler F W) (e : C → F.Call) :
    Handler (F.restrict e) W := fun c w => h (e c) w

/-- What calls do to a state when nothing goes wrong, which replies report a
failure, and what a failing call may leave behind. -/
structure Machine (F : Signature) (S : Type) where
  respond : Handler F S
  Fails : (c : F.Call) → F.Reply c → Prop
  Leaves : F.Call → S → S → Prop

/-- A handler that does what the machine does, except that calls may fail where
faults are possible. -/
def Machine.Follows {F : Signature} {S W : Type} (M : Machine F S) (faults : Prop)
    (h : Handler F W) (view : W → S) : Prop :=
  ∀ c w, (h c w).1 = (M.respond c (view w)).1 ∧ view (h c w).2 = (M.respond c (view w)).2 ∨
    faults ∧ M.Fails c (h c w).1 ∧ M.Leaves c (view w) (view (h c w).2)

/-- The same for one call. -/
def Machine.FollowsAt {F : Signature} {S W : Type} (M : Machine F S) (faults : Prop)
    (h : Handler F W) (view : W → S) (c : F.Call) : Prop :=
  ∀ w, (h c w).1 = (M.respond c (view w)).1 ∧ view (h c w).2 = (M.respond c (view w)).2 ∨
    faults ∧ M.Fails c (h c w).1 ∧ M.Leaves c (view w) (view (h c w).2)

namespace Machine

variable {F : Signature} {S W : Type} {M : Machine F S} {faults : Prop} {h : Handler F W}
  {view : W → S}

/-- The machine follows itself. -/
theorem follows_respond (M : Machine F S) (faults : Prop) : M.Follows faults M.respond id :=
  fun _ _ => Or.inl ⟨rfl, rfl⟩

theorem Follows.mono (hM : M.Follows faults h view) {faults' : Prop} (hfaults : faults → faults') :
    M.Follows faults' h view := fun c w =>
  (hM c w).imp_right fun hfault => ⟨hfaults hfault.1, hfault.2⟩

/-- What the machine keeps, and failing calls keep, every call keeps. -/
theorem Follows.keeps (hM : M.Follows faults h view) {I : S → Prop} {c : F.Call} {w : W}
    (hrespond : I (view w) → I (M.respond c (view w)).2)
    (hleaves : ∀ s, M.Leaves c (view w) s → I (view w) → I s) (hI : I (view w)) :
    I (view (h c w).2) := by
  rcases hM c w with ⟨-, hnext⟩ | ⟨-, -, hleft⟩
  · rw [hnext]
    exact hrespond hI
  · exact hleaves _ hleft hI

end Machine

namespace Proc

variable {F : Signature} {S W ε α β : Type} {M : Machine F S} {h : Handler F W} {view : W → S}
  {faults : Prop} {I : S → Prop} {s s' s'' : S}

/-- From the state `s` the program returns `a` and leaves `s'`, unless a fault makes
it raise. Every call is made, and every exception raised, in a state that satisfies `I`. -/
def Yields (h : Handler F W) (view : W → S) (faults : Prop) (I : S → Prop)
    (m : Proc F Unit ε α) (s : S) (a : α) (s' : S) : Prop :=
  ∀ w, view w = s → m.Ensures h (fun _ w => I (view w))
    (fun r _ w' => r = .ok a ∧ view w' = s' ∨ faults ∧ r.raised = true ∧ I (view w')) () w

theorem yields_pure (a : α) : (pure a : Proc F Unit ε α).Yields h view faults I s a s :=
  fun _ hw => Or.inl ⟨rfl, hw⟩

theorem yields_ofExcept {r : Except ε α} {a : α} (hr : r = .ok a) :
    (ofExcept r : Proc F Unit ε α).Yields h view faults I s a s :=
  fun _ hw => Or.inl ⟨hr, hw⟩

/-- One step after another. -/
theorem Yields.bind {m : Proc F Unit ε α} {f : α → Proc F Unit ε β} {a : α} {b : β}
    (hm : m.Yields h view faults I s a s') (hf : (f a).Yields h view faults I s' b s'') :
    (m >>= f).Yields h view faults I s b s'' := by
  intro w hw
  refine ensures_bind.mpr ((hm w hw).mono fun r u w' hr => ?_)
  rcases hr with ⟨rfl, hw'⟩ | ⟨hfaults, hraised, hI⟩
  · exact hf w' hw'
  · cases r with
    | ok a' => cases hraised
    | error e => exact Or.inr ⟨hfaults, rfl, hI⟩

/-- A check that passes. -/
theorem Yields.bind_check {c : Prop} [Decidable c] {e : ε} {f : Unit → Proc F Unit ε β} {b : β}
    (hc : ¬c) (hf : (f ()).Yields h view faults I s b s') :
    ((ofExcept (.raiseIf c e) : Proc F Unit ε Unit) >>= f).Yields h view faults I s b s' :=
  (yields_ofExcept (Except.raiseIf_neg hc)).bind hf

/-- Handlers that replace an exception by another do not change what is come to. -/
theorem Yields.tryCatch {m : Proc F Unit ε α} {replace : ε → ε} {a : α}
    (hm : m.Yields h view faults I s a s') :
    (MonadExcept.tryCatch m fun e => throw (replace e)).Yields h view faults I s a s' := by
  intro w hw
  refine ensures_tryCatch.mpr ((hm w hw).mono fun r u w' hr => ?_)
  rcases hr with ⟨rfl, hw'⟩ | ⟨hfaults, hraised, hI⟩
  · exact Or.inl ⟨rfl, hw'⟩
  · cases r with
    | ok a' => cases hraised
    | error e => exact Or.inr ⟨hfaults, rfl, hI⟩

/-- Where nothing can fail, an exception handler does not matter. -/
theorem Yields.handled {m : Proc F Unit ε α} {handle : ε → Proc F Unit ε α} {a : α}
    (hm : m.Yields h view False I s a s') :
    (MonadExcept.tryCatch m handle).Yields h view False I s a s' := by
  intro w hw
  refine ensures_tryCatch.mpr ((hm w hw).mono fun r u w' hr => ?_)
  rcases hr with ⟨rfl, hw'⟩ | ⟨hfaults, -⟩
  · exact Or.inl ⟨rfl, hw'⟩
  · exact hfaults.elim

/-- A call whose failures are raised. -/
theorem yields_request (hM : M.Follows faults h view) {c : F.Call}
    {unpack : F.Reply c → Except ε α} {a : α} (hI : I s)
    (hreply : unpack (M.respond c s).1 = .ok a) (hnext : (M.respond c s).2 = s')
    (hfails : ∀ r, M.Fails c r → (unpack r).raised = true) (hleaves : ∀ s₁, M.Leaves c s s₁ → I s₁) :
    (request F c unpack : Proc F Unit ε α).Yields h view faults I s a s' := by
  rintro w rfl
  refine ⟨hI, ?_⟩
  rcases hM c w with ⟨hr, hs⟩ | ⟨hfaults, hfail, hleft⟩
  · exact Or.inl ⟨by rw [hr, hreply], by rw [hs, hnext]⟩
  · exact Or.inr ⟨hfaults, hfails _ hfail, hleaves _ hleft⟩

/-- The same where the machine knows some of the calls only. -/
theorem yields_request_restrict {C : Type} {e : C → F.Call} {M : Machine (F.restrict e) S}
    {c : C} (hc : M.FollowsAt faults (h.restrict e) view c) {unpack : F.Reply (e c) → Except ε α}
    {a : α} (hI : I s) (hreply : unpack (M.respond c s).1 = .ok a) (hnext : (M.respond c s).2 = s')
    (hfails : ∀ r, M.Fails c r → (unpack r).raised = true) (hleaves : ∀ s₁, M.Leaves c s s₁ → I s₁) :
    (request F (e c) unpack : Proc F Unit ε α).Yields h view faults I s a s' := by
  rintro w rfl
  refine ⟨hI, ?_⟩
  rcases hc w with ⟨hr, hs⟩ | ⟨hfaults, hfail, hleft⟩
  · exact Or.inl ⟨(congrArg unpack hr).trans hreply, hs.trans hnext⟩
  · exact Or.inr ⟨hfaults, hfails _ hfail, hleaves _ hleft⟩

/-- A call whose failures are returned, for the next step to raise. -/
theorem yields_request_bind {C : Type} {e : C → F.Call} {M : Machine (F.restrict e) S}
    {c : C} (hc : M.FollowsAt faults (h.restrict e) view c) {unpack : F.Reply (e c) → Except ε α}
    {f : α → Proc F Unit ε β} {a : α} {b : β} (hI : I s)
    (hreply : unpack (M.respond c s).1 = .ok a) (hnext : (M.respond c s).2 = s')
    (hfails : ∀ r a', M.Fails c r → unpack r = .ok a' → ∃ error, f a' = throw error)
    (hleaves : ∀ s₁, M.Leaves c s s₁ → I s₁) (hf : (f a).Yields h view faults I s' b s'') :
    ((request F (e c) unpack : Proc F Unit ε α) >>= f).Yields h view faults I s b s'' := by
  rintro w rfl
  refine ensures_bind.mpr (ensures_request.mpr ⟨hI, ?_⟩)
  rcases hc w with ⟨hr, hs⟩ | ⟨hfaults, hfail, hleft⟩
  · have hunpacked : unpack (h (e c) w).1 = .ok a := (congrArg unpack hr).trans hreply
    rw [hunpacked]
    exact hf _ (hs.trans hnext)
  · rcases hunpacked : unpack (h (e c) w).1 with error | a'
    · exact Or.inr ⟨hfaults, rfl, hleaves _ hleft⟩
    · obtain ⟨error, hthrow⟩ := hfails _ a' hfail hunpacked
      rw [Except.either_ok, hthrow]
      exact Or.inr ⟨hfaults, rfl, hleaves _ hleft⟩

/-- Where nothing fails, the failures of a call do not matter. -/
theorem yields_request_faultless {C : Type} {e : C → F.Call} {M : Machine (F.restrict e) S}
    {c : C} (hc : M.FollowsAt False (h.restrict e) view c) {unpack : F.Reply (e c) → Except ε α}
    {a : α} (hI : I s) (hreply : unpack (M.respond c s).1 = .ok a)
    (hnext : (M.respond c s).2 = s') :
    (request F (e c) unpack : Proc F Unit ε α).Yields h view False I s a s' := by
  rintro w rfl
  obtain ⟨hr, hs⟩ := (hc w).resolve_right fun hfault => hfault.1
  exact ⟨hI, Or.inl ⟨(congrArg unpack hr).trans hreply, hs.trans hnext⟩⟩

/-! ### Raising -/

/-- From the state `s` the program raises an exception that satisfies `E`, whatever
it has done until then. -/
def Raises (h : Handler F W) (view : W → S) (E : ε → Prop) (m : Proc F Unit ε α) (s : S) : Prop :=
  ∀ w, view w = s → m.Ensures h (fun _ _ => True) (fun r _ _ => ∃ e, r = .error e ∧ E e) () w

section Raises

variable {E E' : ε → Prop}

theorem raises_throw {e : ε} (he : E e) : (throw e : Proc F Unit ε α).Raises h view E s :=
  fun _ _ => ⟨e, rfl, he⟩

/-- A check that does not pass. -/
theorem raises_check {c : Prop} [Decidable c] {e : ε} (hc : c) (he : E e) :
    (ofExcept (.raiseIf c e) : Proc F Unit ε Unit).Raises h view E s :=
  fun _ _ => ⟨e, Except.raiseIf_pos hc, he⟩

/-- A call that is answered with a failure. -/
theorem raises_request_restrict {C : Type} {e : C → F.Call} {M : Machine (F.restrict e) S}
    {c : C} (hc : M.FollowsAt False (h.restrict e) view c) {unpack : F.Reply (e c) → Except ε α}
    {error : ε} (hreply : unpack (M.respond c s).1 = .error error) (he : E error) :
    (request F (e c) unpack : Proc F Unit ε α).Raises h view E s := by
  rintro w rfl
  obtain ⟨hr, -⟩ := (hc w).resolve_right fun hfault => hfault.1
  exact ⟨trivial, error, (congrArg unpack hr).trans hreply, he⟩

/-- What comes after an exception is not run. -/
theorem Raises.bind {m : Proc F Unit ε α} {f : α → Proc F Unit ε β} (hm : m.Raises h view E s) :
    (m >>= f).Raises h view E s := by
  intro w hw
  refine ensures_bind.mpr ((hm w hw).mono fun r u w' hr => ?_)
  obtain ⟨e, rfl, he⟩ := hr
  exact ⟨e, rfl, he⟩

/-- A program that raises after some steps. -/
theorem Yields.raises {m : Proc F Unit ε α} {f : α → Proc F Unit ε β} {a : α}
    (hm : m.Yields h view False I s a s') (hf : (f a).Raises h view E s') :
    (m >>= f).Raises h view E s := by
  intro w hw
  refine ensures_bind.mpr (Prog.Always.mono (hm w hw) (fun _ _ _ => trivial) ?_)
  rintro ⟨r, u⟩ w' (⟨rfl, hw'⟩ | ⟨hfaults, -⟩)
  · exact hf w' hw'
  · exact hfaults.elim

/-- A handler that replaces the exception. -/
theorem Raises.tryCatch {m : Proc F Unit ε α} {handle : ε → Proc F Unit ε α}
    (hm : m.Raises h view E s) (hhandle : ∀ e s', E e → (handle e).Raises h view E' s') :
    (MonadExcept.tryCatch m handle).Raises h view E' s := by
  intro w hw
  refine ensures_tryCatch.mpr ((hm w hw).mono fun r u w' hr => ?_)
  obtain ⟨e, rfl, he⟩ := hr
  exact hhandle e (view w') he w' rfl

end Raises

/-! ### Whole runs -/

/-- Where no call can fail, the program comes to its result. -/
theorem Yields.run {m : Proc F Unit ε α} {a : α} (hm : m.Yields h view False I s a s') {w : W}
    (hw : view w = s) : (m.run h () w).1.1 = .ok a ∧ view (m.run h () w).2 = s' :=
  (Ensures.run (hm w hw)).resolve_right fun hfault => hfault.1

/-- Wherever the program is stopped, the state satisfies the condition. -/
theorem Yields.interrupt {m : Proc F Unit ε α} {a : α} (hm : m.Yields h view faults I s a s')
    (hend : I s') {w : W} (hw : view w = s) (n : ℕ) : I (view ((m ()).interrupt h n w)) := by
  refine Prog.Always.interrupt_of (I := fun w => I (view w)) (hm w hw) (fun _ _ hI => hI) ?_ n
  rintro ⟨r, u⟩ w' (⟨-, hw'⟩ | ⟨-, -, hI⟩)
  · exact hw' ▸ hend
  · exact hI

end Proc
