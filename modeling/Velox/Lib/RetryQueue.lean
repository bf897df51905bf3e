import Mathlib.Algebra.BigOperators.Group.List.Basic
import Mathlib.Algebra.GroupWithZero.Nat
import Mathlib.Algebra.Order.BigOperators.Group.List
import Mathlib.Data.List.Count
import Mathlib.Logic.Function.Basic

/-!
# A queue that serves again

The head of a first-in first-out queue is served. When the attempt asks for
another one and the key has retries left, the key goes to the back of the queue;
otherwise it leaves the queue. Whatever the attempts ask for, a queue of distinct
keys is served a bounded number of times.

## Main definitions

* `RetryQueue`, `RetryQueue.serve` — the queue, and one service of its head
* `RetryQueue.Served` — a queue and the attempts that led to it

## Main results

* `RetryQueue.Served.serve` — one service keeps the account of the attempts
* `RetryQueue.Served.length_le` — attempts and remaining allowance are bounded
* `RetryQueue.Served.count_of_empty` — how often each key was served in the end
-/

set_option autoImplicit false

/-- Keys waiting to be served, and how often each was put back. -/
structure RetryQueue (κ : Type*) where
  queue : List κ
  retries : κ → ℕ

namespace RetryQueue

variable {κ : Type*}

/-- The queue of keys that were never served. -/
def fresh (keys : List κ) : RetryQueue κ := ⟨keys, fun _ => 0⟩

/-- The head leaves. -/
def drop (q : RetryQueue κ) (rest : List κ) : RetryQueue κ := ⟨rest, q.retries⟩

@[simp] theorem queue_drop (q : RetryQueue κ) (rest : List κ) : (q.drop rest).queue = rest := rfl

@[simp] theorem retries_drop (q : RetryQueue κ) (rest : List κ) :
    (q.drop rest).retries = q.retries := rfl

variable [DecidableEq κ]

/-- The head goes to the back, with one retry more. -/
def putBack (q : RetryQueue κ) (key : κ) (rest : List κ) : RetryQueue κ :=
  ⟨rest ++ [key], Function.update q.retries key (q.retries key + 1)⟩

/-- Serve the head; `again` says whether the attempt asks for another one. -/
def serve (limit : ℕ) (again : Bool) (q : RetryQueue κ) : RetryQueue κ :=
  match q.queue with
  | [] => q
  | key :: rest => if again ∧ q.retries key < limit then q.putBack key rest else q.drop rest

section Serve

variable {q : RetryQueue κ} {key k : κ} {rest : List κ}

@[simp] theorem queue_putBack : (q.putBack key rest).queue = rest ++ [key] := rfl

@[simp] theorem retries_putBack_self : (q.putBack key rest).retries key = q.retries key + 1 :=
  Function.update_self ..

theorem retries_putBack_of_ne (hne : k ≠ key) : (q.putBack key rest).retries k = q.retries k :=
  Function.update_of_ne hne ..

theorem serve_of_cons (hqueue : q.queue = key :: rest) (limit : ℕ) (again : Bool) :
    q.serve limit again =
      if again ∧ q.retries key < limit then q.putBack key rest else q.drop rest := by
  simp [serve, hqueue]

/-- Serving the head leaves the retries of every other key alone. -/
theorem retries_serve_of_ne (hqueue : q.queue = key :: rest) (limit : ℕ) (again : Bool)
    (hne : k ≠ key) : (q.serve limit again).retries k = q.retries k := by
  rw [serve_of_cons hqueue]
  split_ifs
  · exact retries_putBack_of_ne hne
  · rfl

/-- Serving the head neither adds nor removes another key. -/
theorem mem_serve_iff_of_ne (hqueue : q.queue = key :: rest) (limit : ℕ) (again : Bool)
    (hne : k ≠ key) : k ∈ (q.serve limit again).queue ↔ k ∈ q.queue := by
  rw [serve_of_cons hqueue, hqueue]
  split_ifs <;> simp [hne]

end Serve

/-- What the attempts so far, each a key and whether it asked for another one, say
about the queue they led to. -/
structure Served (limit : ℕ) (keys : List κ) (attempts : List (κ × Bool)) (q : RetryQueue κ) :
    Prop where
  nodup : q.queue.Nodup
  mem_keys : ∀ key ∈ q.queue, key ∈ keys
  attempted : ∀ attempt ∈ attempts, attempt.1 ∈ keys
  retries_le : ∀ key, q.retries key ≤ limit
  waiting : ∀ key ∈ q.queue, (attempts.map Prod.fst).count key = q.retries key
  finished : ∀ key ∈ keys, key ∉ q.queue → (attempts.map Prod.fst).count key = q.retries key + 1
  /-- Every earlier attempt of a waiting key asked for another one. -/
  asked : ∀ attempt ∈ attempts, attempt.1 ∈ q.queue → attempt.2 = true
  /-- A key was served again only after an attempt that asked for it. -/
  again : attempts.Pairwise fun earlier later => earlier.1 = later.1 → earlier.2 = true
  /-- What was served and what waits starts with the keys in their first order. -/
  fifo : keys <+: attempts.map Prod.fst ++ q.queue
  /-- Every attempt used up a part of the allowance. -/
  allowance : attempts.length + (q.queue.map fun key => limit + 1 - q.retries key).sum ≤
    keys.length * (limit + 1)

variable {limit : ℕ} {keys : List κ} {attempts : List (κ × Bool)} {q : RetryQueue κ}

/-- Distinct keys, none of them served. -/
theorem served_fresh (hkeys : keys.Nodup) : Served limit keys [] (fresh keys) where
  nodup := hkeys
  mem_keys _ hkey := hkey
  attempted _ hattempt := nomatch hattempt
  retries_le _ := Nat.zero_le _
  waiting _ _ := rfl
  finished _ hkey hnot := absurd hkey hnot
  asked _ hattempt := nomatch hattempt
  again := .nil
  fifo := List.prefix_refl _
  allowance := by simp [fresh]

section Step

variable {key : κ} {rest : List κ}

/-- One attempt more is one service more of its key. -/
private theorem count_attempts (asks : Bool) (k : κ) :
    ((attempts ++ [(key, asks)]).map Prod.fst).count k =
      (attempts.map Prod.fst).count k + if key = k then 1 else 0 := by
  simp [List.count_singleton]

private theorem Served.key_notMem (h : Served limit keys attempts q) (hqueue : q.queue = key :: rest) :
    key ∉ rest :=
  (List.nodup_cons.mp (hqueue ▸ h.nodup)).1

private theorem Served.key_mem (h : Served limit keys attempts q) (hqueue : q.queue = key :: rest) :
    key ∈ keys :=
  h.mem_keys key (hqueue ▸ List.mem_cons_self)

private theorem Served.attempted_append (h : Served limit keys attempts q)
    (hqueue : q.queue = key :: rest) (asks : Bool) :
    ∀ attempt ∈ attempts ++ [(key, asks)], attempt.1 ∈ keys := by
  intro attempt hattempt
  rcases List.mem_append.mp hattempt with hold | hnew
  · exact h.attempted attempt hold
  · obtain rfl : attempt = (key, asks) := by simpa using hnew
    exact h.key_mem hqueue

/-- Every earlier attempt of the head asked for this one. -/
private theorem Served.again_append (h : Served limit keys attempts q)
    (hqueue : q.queue = key :: rest) (asks : Bool) :
    (attempts ++ [(key, asks)]).Pairwise fun earlier later =>
      earlier.1 = later.1 → earlier.2 = true := by
  have hmem : key ∈ q.queue := hqueue ▸ List.mem_cons_self
  rw [List.pairwise_append]
  refine ⟨h.again, List.pairwise_singleton _ _, ?_⟩
  intro earlier hearlier later hlater hsame
  obtain rfl : later = (key, asks) := by simpa using hlater
  have hwaits : earlier.1 ∈ q.queue := hsame ▸ hmem
  exact h.asked earlier hearlier hwaits

private theorem Served.fifo_append (h : Served limit keys attempts q)
    (hqueue : q.queue = key :: rest) (asks : Bool) :
    keys <+: (attempts ++ [(key, asks)]).map Prod.fst ++ rest := by
  simpa [hqueue] using h.fifo

private theorem Served.allowance_cons (h : Served limit keys attempts q)
    (hqueue : q.queue = key :: rest) :
    attempts.length + (limit + 1 - q.retries key +
      (rest.map fun k => limit + 1 - q.retries k).sum) ≤ keys.length * (limit + 1) := by
  have hallowance := h.allowance
  rwa [hqueue, List.map_cons, List.sum_cons] at hallowance

/-- Putting the head back after an attempt that asks for it keeps the account. -/
theorem Served.putBack (h : Served limit keys attempts q) (hqueue : q.queue = key :: rest)
    (hlt : q.retries key < limit) :
    Served limit keys (attempts ++ [(key, true)]) (q.putBack key rest) := by
  have hkey : key ∉ rest := h.key_notMem hqueue
  have hmem : ∀ k, k ∈ rest ++ [key] ↔ k ∈ q.queue := by
    intro k
    simp [hqueue, or_comm]
  have hne : ∀ k ∈ rest, k ≠ key := fun k hk hsame => hkey (hsame ▸ hk)
  refine ⟨?_, ?_, h.attempted_append hqueue true, ?_, ?_, ?_, ?_, h.again_append hqueue true, ?_, ?_⟩
  · have hperm : (key :: rest).Nodup := hqueue ▸ h.nodup
    exact (List.perm_append_singleton key rest).nodup_iff.mpr hperm
  · intro k hk
    exact h.mem_keys k ((hmem k).mp hk)
  · intro k
    by_cases hk : k = key
    · rw [hk, retries_putBack_self]
      exact hlt
    · rw [retries_putBack_of_ne hk]
      exact h.retries_le k
  · intro k hk
    have hwaiting := h.waiting k ((hmem k).mp hk)
    rw [count_attempts, hwaiting]
    by_cases hsame : k = key
    · rw [hsame, retries_putBack_self, if_pos rfl]
    · rw [retries_putBack_of_ne hsame, if_neg (Ne.symm hsame), Nat.add_zero]
  · intro k hk hnot
    have hout : k ∉ q.queue := fun hin => hnot ((hmem k).mpr hin)
    have hother : k ≠ key := fun hsame => hout (hqueue ▸ hsame ▸ List.mem_cons_self)
    rw [count_attempts, if_neg (Ne.symm hother), Nat.add_zero, retries_putBack_of_ne hother]
    exact h.finished k hk hout
  · intro attempt hattempt hwaits
    rcases List.mem_append.mp hattempt with hold | hnew
    · exact h.asked attempt hold ((hmem _).mp hwaits)
    · obtain rfl : attempt = (key, true) := by simpa using hnew
      rfl
  · have hfifo := h.fifo_append hqueue true
    rw [queue_putBack, ← List.append_assoc]
    exact hfifo.trans (List.prefix_append _ _)
  · have hallowance := h.allowance_cons hqueue
    have hsum : (rest.map fun k => limit + 1 - (q.putBack key rest).retries k) =
        rest.map fun k => limit + 1 - q.retries k :=
      List.map_congr_left fun k hk => by rw [retries_putBack_of_ne (hne k hk)]
    rw [queue_putBack, List.map_append, List.sum_append, hsum, List.length_append]
    simp only [List.map_cons, List.map_nil, List.sum_cons, List.sum_nil, retries_putBack_self,
      List.length_cons, List.length_nil]
    omega

/-- Letting the head leave keeps the account, whatever its attempt asks for. -/
theorem Served.drop (h : Served limit keys attempts q) (hqueue : q.queue = key :: rest)
    (asks : Bool) : Served limit keys (attempts ++ [(key, asks)]) (q.drop rest) := by
  have hkey : key ∉ rest := h.key_notMem hqueue
  have hsub : ∀ k ∈ rest, k ∈ q.queue := fun k hk => hqueue ▸ List.mem_cons_of_mem key hk
  refine ⟨?_, fun k hk => h.mem_keys k (hsub k hk), h.attempted_append hqueue asks, h.retries_le,
    ?_, ?_, ?_, h.again_append hqueue asks, h.fifo_append hqueue asks, ?_⟩
  · have hnodup : (key :: rest).Nodup := hqueue ▸ h.nodup
    exact (List.nodup_cons.mp hnodup).2
  · intro k hk
    have hne : key ≠ k := fun hsame => hkey (hsame ▸ hk)
    rw [count_attempts, if_neg hne, Nat.add_zero]
    exact h.waiting k (hsub k hk)
  · intro k hk hnot
    rw [count_attempts]
    by_cases hsame : key = k
    · have hwaiting := h.waiting key (hqueue ▸ List.mem_cons_self)
      rw [← hsame, if_pos rfl, hwaiting, retries_drop]
    · have hout : k ∉ q.queue := by
        rw [hqueue, List.mem_cons, not_or]
        exact ⟨Ne.symm hsame, hnot⟩
      rw [if_neg hsame, Nat.add_zero]
      exact h.finished k hk hout
  · intro attempt hattempt hwaits
    rcases List.mem_append.mp hattempt with hold | hnew
    · exact h.asked attempt hold (hsub _ hwaits)
    · obtain rfl : attempt = (key, asks) := by simpa using hnew
      exact absurd hwaits hkey
  · have hallowance := h.allowance_cons hqueue
    have hle := h.retries_le key
    rw [List.length_append, List.length_singleton, queue_drop, retries_drop]
    omega

/-- One service of the head keeps the account. -/
theorem Served.serve (h : Served limit keys attempts q) (hqueue : q.queue = key :: rest)
    (asks : Bool) : Served limit keys (attempts ++ [(key, asks)]) (q.serve limit asks) := by
  rw [serve_of_cons hqueue]
  split_ifs with hagain
  · obtain ⟨rfl, hlt⟩ := hagain
    exact h.putBack hqueue hlt
  · exact h.drop hqueue asks

end Step

/-- However often the keys are served, the attempts stay within the allowance. -/
theorem Served.length_le (h : Served limit keys attempts q) :
    attempts.length ≤ keys.length * (limit + 1) :=
  (Nat.le_add_right _ _).trans h.allowance

/-- As long as something waits, the allowance is not used up. -/
theorem Served.length_lt (h : Served limit keys attempts q) (hqueue : q.queue ≠ []) :
    attempts.length < keys.length * (limit + 1) := by
  obtain ⟨key, rest, hcons⟩ := List.exists_cons_of_ne_nil hqueue
  have hallowance := h.allowance
  have hle := h.retries_le key
  rw [hcons, List.map_cons, List.sum_cons] at hallowance
  omega

/-- Once nothing waits, every key was served at least once, and at most once more
than the limit. -/
theorem Served.count_of_empty (h : Served limit keys attempts q) (hqueue : q.queue = []) {key : κ}
    (hkey : key ∈ keys) :
    (attempts.map Prod.fst).count key = q.retries key + 1 ∧
      1 ≤ (attempts.map Prod.fst).count key ∧ (attempts.map Prod.fst).count key ≤ limit + 1 := by
  have hcount := h.finished key hkey (by simp [hqueue])
  have hle := h.retries_le key
  omega

/-- Once nothing waits, the attempts start with one of each key, in order. -/
theorem Served.fifo_of_empty (h : Served limit keys attempts q) (hqueue : q.queue = []) :
    keys <+: attempts.map Prod.fst := by
  simpa [hqueue] using h.fifo

end RetryQueue
