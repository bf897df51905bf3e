import Mathlib.Data.List.Nodup

/-!
# Bounded walks along cursors

A listing is read page by page: the first page without a cursor, every further
one under the cursor its predecessor names. The walk ends when a page names no
cursor, when a limit on the number of pages is reached, or when a page names a
cursor that was used already.

## Main definitions

* `CursorWalk.Visit` — a page and the cursor it was fetched under
* `CursorWalk.Underway` — the pages fetched so far and the cursor to fetch next
* `CursorWalk.Ends` — why a page is the last one

## Main results

* `CursorWalk.underway_start`, `CursorWalk.Underway.step` — how a walk goes on
* `CursorWalk.Underway.nodup_cursors` — no two pages are fetched under one cursor
-/

set_option autoImplicit false

namespace CursorWalk

variable {τ π : Type*}

/-- A page and the cursor it was fetched under; the first page has none. -/
abbrev Visit (τ π : Type*) := Option τ × π

/-- The cursors of the pages fetched so far and of the one to fetch next. -/
def cursors (visits : List (Visit τ π)) (pending : Option τ) : List (Option τ) :=
  visits.map Prod.fst ++ [pending]

/-- Why a walk ends. -/
inductive Termination
  | exhausted
  | pageLimit
  | repeatedCursor
  deriving DecidableEq

/-- A walk that has fetched some pages and is about to fetch one more. -/
structure Underway (next : π → Option τ) (limit : ℕ) (visits : List (Visit τ π))
    (pending : Option τ) : Prop where
  /-- The first page has no cursor, every other the one its predecessor names. -/
  linked : cursors visits pending = none :: visits.map (next ∘ Prod.snd)
  /-- No cursor is used twice. -/
  nodup : (cursors visits pending).Nodup
  /-- The page to fetch is within the limit. -/
  within : visits.length < limit

/-- Why a walk ends with a page fetched under the pending cursor. -/
inductive Ends (next : π → Option τ) (limit : ℕ) (visits : List (Visit τ π)) (pending : Option τ)
    (page : π) : Termination → Prop
  | exhausted : next page = none → Ends next limit visits pending page .exhausted
  | pageLimit {t : τ} : next page = some t → visits.length + 1 = limit →
      Ends next limit visits pending page .pageLimit
  | repeatedCursor {t : τ} : next page = some t → visits.length + 1 < limit →
      some t ∈ cursors visits pending → Ends next limit visits pending page .repeatedCursor

variable {next : π → Option τ} {limit : ℕ} {visits : List (Visit τ π)} {pending : Option τ}
  {page : π}

@[simp] theorem cursors_nil : cursors ([] : List (Visit τ π)) pending = [pending] := rfl

theorem cursors_append (visit : Visit τ π) :
    cursors (visits ++ [visit]) pending = cursors visits visit.1 ++ [pending] := by
  simp [cursors]

@[simp] theorem length_cursors : (cursors visits pending).length = visits.length + 1 := by
  simp [cursors]

/-- Every walk starts without a cursor. -/
theorem underway_start (hlimit : 0 < limit) : Underway next limit [] none where
  linked := rfl
  nodup := List.nodup_singleton none
  within := hlimit

/-- A page that names an unused cursor is followed by the page under that cursor. -/
theorem Underway.step (h : Underway next limit visits pending) {t : τ} (hnext : next page = some t)
    (hlimit : visits.length + 1 < limit) (hunused : some t ∉ cursors visits pending) :
    Underway next limit (visits ++ [(pending, page)]) (some t) where
  linked := by
    rw [cursors_append, h.linked, List.map_append, List.cons_append]
    simp [hnext]
  nodup := by
    rw [cursors_append, List.nodup_append]
    refine ⟨h.nodup, List.nodup_singleton _, ?_⟩
    intro c hc d hd hcd
    obtain rfl := List.mem_singleton.mp hd
    exact hunused (hcd ▸ hc)
  within := by
    rw [List.length_append, List.length_singleton]
    exact hlimit

/-- No two pages are fetched under one cursor. -/
theorem Underway.nodup_cursors (h : Underway next limit visits pending) :
    ((cursors visits pending).filterMap id).Nodup := by
  refine h.nodup.filterMap ?_
  intro a b c hac hbc
  simp only [id_eq, Option.mem_def] at hac hbc
  rw [hac, hbc]

/-- The pages fetched are at most the limit. -/
theorem Underway.length_cursors_le (h : Underway next limit visits pending) :
    (cursors visits pending).length ≤ limit := by
  rw [length_cursors]
  exact h.within

end CursorWalk
