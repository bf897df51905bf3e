import Mathlib.Algebra.BigOperators.Group.List.Basic
import Mathlib.Algebra.Ring.Nat
import Mathlib.Data.List.Forall2
import Velox.Lib.Run
import Velox.Lib.Transcript

/-!
# Pools of programs

Any number of programs share a world. At every turn a new program joins them, or one of
them makes its next call; a program that is never given another turn has been abandoned
where it stands. Nothing is asked of the order of the turns.

## Main definitions

* `Pool`, `Pool.turn` — programs underway and their world, and one turn
* `Pool.Joining` — what holds of every program that joins in a run
* `Pool.Traces` — the log of a pool as the exchanges of its programs
* `Pool.spent`, `Pool.granted`, `Pool.Affords` — calls that cost tokens, and replies that
  grant some

## Main results

* `Pool.invariant` — what every call of a kind keeps, every run of a pool keeps
* `Pool.traces_after` — what was shown of each program holds of its exchanges among others
* `Pool.preceded_call` — every call was made after exchanges that permit it
* `Pool.spent_le_granted` — in every run, no more tokens are spent than were granted
-/

set_option autoImplicit false

variable {F : Signature} {α W : Type}

/-- Programs underway, and the world they share. -/
structure Pool (F : Signature) (α W : Type) where
  tasks : List (Prog F α)
  world : W

/-- What happens at a turn. -/
inductive Turn (F : Signature) (α : Type)
  | join (p : Prog F α)
  | advance (i : ℕ)

namespace Pool

/-- One turn. A program that has returned, or is not there, makes no call. -/
def turn (h : Handler F W) (pool : Pool F α W) : Turn F α → Pool F α W
  | .join p => ⟨pool.tasks ++ [p], pool.world⟩
  | .advance i =>
    match pool.tasks[i]? with
    | some (.call c next) => ⟨pool.tasks.set i (next (h c pool.world).1), (h c pool.world).2⟩
    | _ => pool

/-- The pool without any program. -/
def empty (w : W) : Pool F α W := ⟨[], w⟩

/-- Every program that joins satisfies `P`. -/
def Joining (P : Prog F α → Prop) (turns : List (Turn F α)) : Prop := ∀ p, .join p ∈ turns → P p

variable {h : Handler F W} {pool : Pool F α W} {turns : List (Turn F α)} {P : Prog F α → Prop}

theorem Joining.head {o : Turn F α} (hjoin : Joining P (o :: turns)) :
    ∀ p, o = .join p → P p := fun p hp => hjoin p (hp ▸ List.mem_cons_self)

theorem Joining.tail {o : Turn F α} (hjoin : Joining P (o :: turns)) : Joining P turns :=
  fun p hp => hjoin p (List.mem_cons_of_mem o hp)

/-- What a turn does: nothing to the world, or the call a program is about to make. -/
theorem turn_cases (h : Handler F W) (pool : Pool F α W) (o : Turn F α) :
    (∃ p, o = .join p ∧ pool.turn h o = ⟨pool.tasks ++ [p], pool.world⟩) ∨
      pool.turn h o = pool ∨
      ∃ i c next, pool.tasks[i]? = some (.call c next) ∧
        pool.turn h o = ⟨pool.tasks.set i (next (h c pool.world).1), (h c pool.world).2⟩ := by
  cases o with
  | join p => exact Or.inl ⟨p, rfl, rfl⟩
  | advance i =>
    rw [turn]
    split
    · exact Or.inr (Or.inr ⟨i, _, _, ‹_›, rfl⟩)
    · exact Or.inr (Or.inl rfl)

/-! ### Invariants -/

section Invariant

variable {K : F.Call → Prop} {Q : α → Prop} {I : W → Prop}

/-- The programs underway make calls of a kind only, and the world satisfies `I`. -/
def Keeps (K : F.Call → Prop) (Q : α → Prop) (I : W → Prop) (pool : Pool F α W) : Prop :=
  (∀ p ∈ pool.tasks, p.Calls K Q) ∧ I pool.world

theorem Keeps.turn (hcall : ∀ c w, K c → I w → I (h c w).2) (hkeeps : pool.Keeps K Q I)
    {o : Turn F α} (hjoin : ∀ p, o = .join p → p.Calls K Q) : (pool.turn h o).Keeps K Q I := by
  obtain ⟨htasks, hworld⟩ := hkeeps
  rcases turn_cases h pool o with ⟨p, rfl, hturn⟩ | hturn | ⟨i, c, next, hi, hturn⟩
  · rw [hturn]
    refine ⟨fun q hq => ?_, hworld⟩
    rcases List.mem_append.mp hq with hold | hnew
    · exact htasks q hold
    · rw [List.mem_singleton.mp hnew]
      exact hjoin p rfl
  · rw [hturn]
    exact ⟨htasks, hworld⟩
  · rw [hturn]
    have hc : (Prog.call c next).Calls K Q := htasks _ (List.mem_of_getElem? hi)
    refine ⟨fun q hq => ?_, hcall c _ hc.1 hworld⟩
    rcases List.mem_or_eq_of_mem_set hq with hold | rfl
    · exact htasks q hold
    · exact hc.2 _

/-- What every call of a kind keeps, holds in every world a pool of programs comes to that
make no other calls. -/
theorem invariant (hcall : ∀ c w, K c → I w → I (h c w).2) (hkeeps : pool.Keeps K Q I)
    (hjoin : Joining (·.Calls K Q) turns) : (Run.after (Pool.turn h) pool turns).Keeps K Q I := by
  induction turns generalizing pool with
  | nil => exact hkeeps
  | cons o turns ih =>
    exact ih (hkeeps.turn hcall hjoin.head) hjoin.tail

theorem keeps_empty {w : W} (hw : I w) : (empty w : Pool F α W).Keeps K Q I :=
  ⟨fun _ hp => absurd hp List.not_mem_nil, hw⟩

end Invariant

/-! ### The exchanges of each program -/

section Traces

variable {K : List (Exchange F) → F.Call → Prop} {A : List (Exchange F) → α → Prop}
  {G : List (Exchange F) → Prop}

theorem perm_flatten_set {ts : List (List (Exchange F))} {i : ℕ} {t : List (Exchange F)}
    (hi : ts[i]? = some t) (e : Exchange F) :
    (ts.set i (t ++ [e])).flatten.Perm (ts.flatten ++ [e]) := by
  induction ts generalizing i with
  | nil => cases hi
  | cons t' ts ih =>
    cases i with
    | zero =>
      obtain rfl := Option.some.inj hi
      rw [List.set_cons_zero, List.flatten_cons, List.flatten_cons, List.append_assoc,
        List.append_assoc]
      exact List.perm_append_comm.append_left t'
    | succ i =>
      rw [List.set_cons_succ, List.flatten_cons, List.flatten_cons, List.append_assoc]
      exact (ih hi).append_left t'

theorem forall₂_set {β γ : Type} {R : β → γ → Prop} {xs : List β} {ys : List γ} {x : β} {y : γ}
    {i : ℕ} (h : List.Forall₂ R xs ys) (hxy : R x y) : List.Forall₂ R (xs.set i x) (ys.set i y) := by
  induction h generalizing i with
  | nil => exact .nil
  | cons hab h ih =>
    cases i with
    | zero => exact .cons hxy h
    | succ i => exact .cons hab ih

theorem Forall₂.exists_getElem? {β γ : Type} {R : β → γ → Prop} {xs : List β} {ys : List γ} {y : γ}
    {i : ℕ} (h : List.Forall₂ R xs ys) (hi : ys[i]? = some y) : ∃ x, xs[i]? = some x ∧ R x y := by
  induction h generalizing i with
  | nil => cases hi
  | cons hab h ih =>
    cases i with
    | zero =>
      obtain rfl := Option.some.inj hi
      exact ⟨_, rfl, hab⟩
    | succ i => exact ih hi

/-- The log is made up of the exchanges of the programs underway, each of which goes on as
`K` and `A` say. -/
def Traces (K : List (Exchange F) → F.Call → Prop) (A : List (Exchange F) → α → Prop)
    (G : List (Exchange F) → Prop) (pool : Pool F α (W × List (Exchange F))) : Prop :=
  ∃ ts, List.Forall₂ (fun t p => Prog.Traced K A p t ∧ G t) ts pool.tasks ∧
    pool.world.2.Perm ts.flatten

variable {pool : Pool F α (W × List (Exchange F))}

theorem Traces.turn (hgood : ∀ t c r, G t → K t c → G (t ++ [⟨c, r⟩])) (hnil : G [])
    (htraces : pool.Traces K A G) {o : Turn F α} (hjoin : ∀ p, o = .join p → p.Traced K A []) :
    (pool.turn h.logged o).Traces K A G := by
  obtain ⟨ts, hts, hlog⟩ := htraces
  rcases turn_cases h.logged pool o with ⟨p, rfl, hturn⟩ | hturn | ⟨i, c, next, hi, hturn⟩
  · -- a program joins, and has made no exchange yet
    rw [hturn]
    refine ⟨ts ++ [[]], List.rel_append hts (.cons ⟨hjoin p rfl, hnil⟩ .nil), ?_⟩
    rw [List.flatten_append, List.flatten_singleton, List.append_nil]
    exact hlog
  · rw [hturn]
    exact ⟨ts, hts, hlog⟩
  · -- the exchange is that of the program whose turn it is
    rw [hturn]
    obtain ⟨t, ht, ⟨hcall, hnext⟩, hgoodt⟩ := Forall₂.exists_getElem? hts hi
    have hreply := hnext (h c pool.world.1).1
    exact ⟨_, forall₂_set hts ⟨hreply, hgood t c _ hgoodt hcall⟩,
      (hlog.append_right _).trans (perm_flatten_set ht _).symm⟩

/-- Whatever the turns, the log of a pool is made up of the exchanges of its programs: what
was shown of each program holds of its own exchanges. -/
theorem traces_after (hgood : ∀ t c r, G t → K t c → G (t ++ [⟨c, r⟩])) (hnil : G [])
    (htraces : pool.Traces K A G) (hjoin : Joining (·.Traced K A []) turns) :
    (Run.after (Pool.turn h.logged) pool turns).Traces K A G := by
  induction turns generalizing pool with
  | nil => exact htraces
  | cons o turns ih => exact ih (htraces.turn hgood hnil hjoin.head) hjoin.tail

theorem traces_empty {w : W} : (empty (w, []) : Pool F α _).Traces K A G :=
  ⟨[], .nil, List.Perm.refl _⟩

end Traces

/-! ### What came before a call -/

section Preceded

variable {K : List (Exchange F) → F.Call → Prop} {A : List (Exchange F) → α → Prop}
  {pool : Pool F α (W × List (Exchange F))}

/-- The exchanges of every program are among those so far, and every call was made after some
of them that permit it. -/
def Preceded (K : List (Exchange F) → F.Call → Prop) (A : List (Exchange F) → α → Prop)
    (pool : Pool F α (W × List (Exchange F))) : Prop :=
  (∃ ts, List.Forall₂ (fun t p => Prog.Traced K A p t ∧ t.Sublist pool.world.2) ts pool.tasks) ∧
    ∀ before e after, pool.world.2 = before ++ e :: after → ∃ t, t.Sublist before ∧ K t e.1

theorem eq_append_cons_iff {β : Type} {l before after : List β} {x y : β}
    (h : l ++ [x] = before ++ y :: after) :
    (before = l ∧ y = x) ∨ ∃ after', l = before ++ y :: after' := by
  rcases List.eq_nil_or_concat after with rfl | ⟨after', z, rfl⟩
  · obtain ⟨rfl, hxy⟩ := List.append_inj' h rfl
    exact Or.inl ⟨rfl, (List.cons.inj hxy).1.symm⟩
  · refine Or.inr ⟨after', ?_⟩
    rw [List.concat_eq_append, ← List.cons_append, ← List.append_assoc] at h
    exact (List.append_inj' h rfl).1

theorem Preceded.turn (hpreceded : pool.Preceded K A) {o : Turn F α}
    (hjoin : ∀ p, o = .join p → p.Traced K A []) : (pool.turn h.logged o).Preceded K A := by
  obtain ⟨⟨ts, hts⟩, hlog⟩ := hpreceded
  rcases turn_cases h.logged pool o with ⟨p, rfl, hturn⟩ | hturn | ⟨i, c, next, hi, hturn⟩
  · rw [hturn]
    refine ⟨⟨ts ++ [[]], ?_⟩, hlog⟩
    exact List.rel_append hts (.cons ⟨hjoin p rfl, List.nil_sublist _⟩ .nil)
  · rw [hturn]
    exact ⟨⟨ts, hts⟩, hlog⟩
  · rw [hturn]
    obtain ⟨t, ht, ⟨hcall, hnext⟩, hsublist⟩ := Forall₂.exists_getElem? hts hi
    constructor
    · -- the exchanges of the other programs are still among those so far
      have hmore : List.Forall₂ (fun t p => Prog.Traced K A p t ∧
          t.Sublist (pool.world.2 ++ [⟨c, (h c pool.world.1).1⟩])) ts pool.tasks :=
        hts.imp fun _ _ h => ⟨h.1, h.2.trans (List.sublist_append_left _ _)⟩
      exact ⟨_, forall₂_set hmore ⟨hnext _, hsublist.append (List.Sublist.refl _)⟩⟩
    · intro before e after heq
      rcases eq_append_cons_iff heq with ⟨rfl, rfl⟩ | ⟨after', hold⟩
      · exact ⟨t, hsublist, hcall⟩
      · exact hlog before e after' hold

theorem Preceded.after (hpreceded : pool.Preceded K A) (hjoin : Joining (·.Traced K A []) turns) :
    (Run.after (Pool.turn h.logged) pool turns).Preceded K A := by
  induction turns generalizing pool with
  | nil => exact hpreceded
  | cons o turns ih => exact ih (hpreceded.turn hjoin.head) hjoin.tail

end Preceded

/-! ### Tokens -/

section Tokens

variable {cost : F.Call → ℕ} {grant : Exchange F → ℕ} {t : List (Exchange F)}

/-- The tokens that have been spent. -/
def spent (cost : F.Call → ℕ) (t : List (Exchange F)) : ℕ := (t.map fun e => cost e.1).sum

/-- The tokens that have been granted. -/
def granted (grant : Exchange F → ℕ) (t : List (Exchange F)) : ℕ := (t.map grant).sum

/-- A call that can be paid for with what has been granted. -/
def Affords (cost : F.Call → ℕ) (grant : Exchange F → ℕ) (t : List (Exchange F)) (c : F.Call) :
    Prop := spent cost t + cost c ≤ granted grant t

@[simp] theorem spent_append {t' : List (Exchange F)} :
    spent cost (t ++ t') = spent cost t + spent cost t' := by
  rw [spent, List.map_append, List.sum_append, spent, spent]

@[simp] theorem granted_append {t' : List (Exchange F)} :
    granted grant (t ++ t') = granted grant t + granted grant t' := by
  rw [granted, List.map_append, List.sum_append, granted, granted]

/-- What is left after some exchanges: at least `n` tokens. -/
def Leaves (cost : F.Call → ℕ) (grant : Exchange F → ℕ) (n : ℕ) (t : List (Exchange F)) : Prop :=
  spent cost t + n ≤ granted grant t

/-- A call that costs nothing. -/
theorem Leaves.add {n : ℕ} (h : Leaves cost grant n t) {c : F.Call} (hcost : cost c = 0)
    (r : F.Reply c) : Leaves cost grant (n + grant ⟨c, r⟩) (t ++ [⟨c, r⟩]) := by
  rw [Leaves, spent_append, granted_append]
  show _ + (cost c + 0) + _ ≤ _ + (grant _ + 0)
  rw [hcost]
  rw [Leaves] at h
  omega

theorem Leaves.spend {n : ℕ} {c : F.Call} (h : Leaves cost grant (n + cost c) t) (r : F.Reply c) :
    Leaves cost grant n (t ++ [⟨c, r⟩]) := by
  rw [Leaves, spent_append, granted_append]
  show _ + (cost c + 0) + _ ≤ _ + (grant _ + 0)
  rw [Leaves] at h
  omega

theorem Leaves.mono {m n : ℕ} (h : Leaves cost grant n t) (hmn : m ≤ n) : Leaves cost grant m t :=
  (Nat.add_le_add_left hmn _).trans h

theorem Leaves.affords {n : ℕ} {c : F.Call} (h : Leaves cost grant n t) (hcost : cost c ≤ n) :
    Affords cost grant t c := (Nat.add_le_add_left hcost _).trans h

theorem spent_le_granted_flatten {ts : List (List (Exchange F))}
    (h : ∀ t ∈ ts, spent cost t ≤ granted grant t) :
    spent cost ts.flatten ≤ granted grant ts.flatten := by
  induction ts with
  | nil => exact Nat.le_refl 0
  | cons t ts ih =>
    rw [List.flatten_cons, spent_append, granted_append]
    exact Nat.add_le_add (h t List.mem_cons_self) (ih fun t' ht' => h t' (List.mem_cons_of_mem t ht'))

/-- Whatever the turns, programs that make no call they cannot pay for spend no more than
they are granted. -/
theorem spent_le_granted {w : W}
    (hjoin : Joining (fun p => p.Traced (Affords cost grant) (fun _ _ => True) []) turns) :
    spent cost (Run.after (Pool.turn h.logged) (empty (α := α) (w, [])) turns).world.2 ≤
      granted grant (Run.after (Pool.turn h.logged) (empty (α := α) (w, [])) turns).world.2 := by
  have hgood : ∀ t (c : F.Call) r, spent cost t ≤ granted grant t → Affords cost grant t c →
      spent cost (t ++ [⟨c, r⟩]) ≤ granted grant (t ++ [⟨c, r⟩]) := by
    intro t c r _ hcall
    rw [spent_append, granted_append]
    exact Nat.le_trans hcall (Nat.le_add_right _ _)
  obtain ⟨ts, hts, hlog⟩ := traces_after (h := h) hgood (Nat.le_refl 0) (traces_empty (w := w)) hjoin
  have hsolvent : ∀ t ∈ ts, spent cost t ≤ granted grant t := by
    intro t ht
    obtain ⟨i, hi⟩ := List.mem_iff_getElem?.mp ht
    obtain ⟨p, -, -, hsolvent⟩ := Forall₂.exists_getElem? hts.flip hi
    exact hsolvent
  rw [spent, granted, (hlog.map _).sum_eq, (hlog.map _).sum_eq]
  exact spent_le_granted_flatten hsolvent

end Tokens

end Pool
