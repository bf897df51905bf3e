import Mathlib.Data.Int.Order.Basic
import Mathlib.Order.Lattice

/-!
# Bisection

The search for the place of a number in a list. Whatever the list, sorted or not, what is
right before the place is at most the number, and what is right after it is above.

## Main definitions

* `bisectRight` — the search
* `IsPlace` — what is right before and right after a place

## Main results

* `isPlace_bisectRight` — what the search finds
-/

set_option autoImplicit false

/-- Halve the range from `lo` to `hi` until it is empty, at most a given number of times. -/
def bisectLoop (xs : List ℤ) (x : ℤ) : ℕ → ℕ → ℕ → ℕ
  | 0, lo, _ => lo
  | fuel + 1, lo, hi =>
    if lo < hi then
      if x < xs.getD ((lo + hi) / 2) 0 then bisectLoop xs x fuel lo ((lo + hi) / 2)
      else bisectLoop xs x fuel ((lo + hi) / 2 + 1) hi
    else lo

/-- The place of a number in a list, to the right of equal ones. -/
def bisectRight (xs : List ℤ) (x : ℤ) : ℕ := bisectLoop xs x xs.length 0 xs.length

/-- Among the first `n` values of `f`, the one right before the place `j` is at most `x`,
and the one right after it is above. -/
structure IsPlace (f : ℕ → ℤ) (n : ℕ) (x : ℤ) (j : ℕ) : Prop where
  le : j ≤ n
  before : ∀ i, i + 1 = j → f i ≤ x
  after : j < n → x < f j

theorem isPlace_bisectLoop {xs : List ℤ} {x : ℤ} {fuel lo hi : ℕ} (hfuel : hi - lo ≤ fuel)
    (hle : lo ≤ hi) (hhi : hi ≤ xs.length) (hbefore : ∀ i, i + 1 = lo → xs.getD i 0 ≤ x)
    (hafter : hi < xs.length → x < xs.getD hi 0) :
    IsPlace (xs.getD · 0) xs.length x (bisectLoop xs x fuel lo hi) := by
  induction fuel generalizing lo hi with
  | zero =>
    obtain rfl : lo = hi := by omega
    exact ⟨hhi, hbefore, hafter⟩
  | succ fuel ih =>
    rw [bisectLoop]
    split_ifs with hlt hx
    · exact ih (by omega) (by omega) (by omega) hbefore fun _ => hx
    · refine ih (by omega) (by omega) hhi (fun i heq => ?_) hafter
      obtain rfl : i = (lo + hi) / 2 := by omega
      exact not_lt.mp hx
    · obtain rfl : lo = hi := by omega
      exact ⟨hhi, hbefore, hafter⟩

/-- The search finds a place. -/
theorem isPlace_bisectRight (xs : List ℤ) (x : ℤ) :
    IsPlace (xs.getD · 0) xs.length x (bisectRight xs x) :=
  isPlace_bisectLoop (Nat.le_of_eq (Nat.sub_zero _)) (Nat.zero_le _) le_rfl
    (fun i heq => absurd heq (Nat.succ_ne_zero i)) fun h => absurd h (lt_irrefl _)

/-- A place depends on the values of the list only. -/
theorem IsPlace.congr {f g : ℕ → ℤ} {n : ℕ} {x : ℤ} {j : ℕ} (h : IsPlace f n x j)
    (heq : ∀ i < n, f i = g i) : IsPlace g n x j := by
  refine ⟨h.le, fun i hi => ?_, fun hj => ?_⟩
  · have hle := h.le
    rw [← heq i (by omega)]
    exact h.before i hi
  · rw [← heq j hj]
    exact h.after hj
