import Mathlib.Algebra.Order.Group.Abs
import Mathlib.Algebra.Order.Group.Int
import Mathlib.Data.Int.Init
import Mathlib.Data.List.GetD
import Mathlib.Order.MinMax
import Velox.Lib.Bisect

/-!
# Clocks that jump

A clock is ahead of the time by an offset that changes at finitely many moments: there
the clock jumps, forward or back. Times and readings are whole numbers of some unit.

A reading that the clock jumps over is shown at no time, or more than once. To find the
time of a reading one looks for its place among the walls, the later ends of the jumps.

## Main definitions

* `JumpingClock` — an initial offset and jumps at increasing times
* `JumpingClock.reading` — what the clock shows at a time
* `JumpingClock.JumpsOver` — a jump from one side of a reading to the other
* `JumpingClock.firstAt` — the time of a reading, by its place among the walls

## Main results

* `JumpingClock.le_reading_iff` — a reading that is not jumped over is reached once for
  all, at the time found for it
* `JumpingClock.window_of_regular` — two such readings bound an interval of times
* `JumpingClock.regular_of_window` — the converse, where no jump is longer than what lies
  between the readings
-/

set_option autoImplicit false

/-- An initial offset, and for each jump its time and the offset from then on. -/
structure JumpingClock where
  initial : ℤ
  jumps : List (ℤ × ℤ)
  increasing : (jumps.map Prod.fst).Pairwise (· < ·)

namespace JumpingClock

/-- The times of the jumps. -/
def times (c : JumpingClock) : List ℤ := c.jumps.map Prod.fst

/-- The time of a jump. -/
def time (c : JumpingClock) (i : ℕ) : ℤ := c.times.getD i 0

/-- The number of jumps. -/
def count (c : JumpingClock) : ℕ := c.times.length

/-- The offset between two jumps, before the first or after the last. -/
def ahead (c : JumpingClock) (i : ℕ) : ℤ := (c.initial :: c.jumps.map Prod.snd).getD i 0

/-- The offset at a time. -/
def offset (c : JumpingClock) (t : ℤ) : ℤ := c.ahead (bisectRight c.times t)

/-- What the clock shows at a time. -/
def reading (c : JumpingClock) (t : ℤ) : ℤ := t + c.offset t

/-- What a jump would show without it. -/
def jumpsFrom (c : JumpingClock) (i : ℕ) : ℤ := c.time i + c.ahead i

/-- What a jump shows. -/
def jumpsTo (c : JumpingClock) (i : ℕ) : ℤ := c.time i + c.ahead (i + 1)

/-- The later end of a jump. -/
def wall (c : JumpingClock) (i : ℕ) : ℤ := c.time i + max (c.ahead i) (c.ahead (i + 1))

/-- A jump forward over a reading. -/
def SkipsAt (c : JumpingClock) (i : ℕ) (m : ℤ) : Prop := c.jumpsFrom i < m ∧ m < c.jumpsTo i

/-- A jump back over a reading. -/
def RepeatsAt (c : JumpingClock) (i : ℕ) (m : ℤ) : Prop := c.jumpsTo i < m ∧ m < c.jumpsFrom i

/-- The clock jumps over a reading. -/
def JumpsOver (c : JumpingClock) (m : ℤ) : Prop :=
  ∃ i < c.count, c.SkipsAt i m ∨ c.RepeatsAt i m

/-- The clock jumps over everything from one reading to another. -/
def JumpsAcross (c : JumpingClock) (m m' : ℤ) : Prop :=
  ∃ i < c.count, c.jumpsFrom i ≤ m ∧ m' ≤ c.jumpsTo i

section Reading

variable {c : JumpingClock} {i j : ℕ} {t m : ℤ}

theorem time_lt_time (hij : i < j) (hj : j < c.count) : c.time i < c.time j := by
  have hi : i < c.times.length := hij.trans hj
  rw [time, time, List.getD_eq_getElem _ _ hi, List.getD_eq_getElem _ _ hj]
  exact List.pairwise_iff_getElem.mp c.increasing i j hi hj hij

theorem time_le_time (hij : i ≤ j) (hj : j < c.count) : c.time i ≤ c.time j := by
  rcases hij.eq_or_lt with rfl | hlt
  · exact le_rfl
  · exact (time_lt_time hlt hj).le

theorem jumpsFrom_le_wall : c.jumpsFrom i ≤ c.wall i := by
  rw [jumpsFrom, wall]
  have := le_max_left (c.ahead i) (c.ahead (i + 1))
  omega

theorem jumpsTo_le_wall : c.jumpsTo i ≤ c.wall i := by
  rw [jumpsTo, wall]
  have := le_max_right (c.ahead i) (c.ahead (i + 1))
  omega

/-- There is one place of a time among the jumps. -/
theorem place_unique (hi : IsPlace c.time c.count t i) (hj : IsPlace c.time c.count t j) : i = j := by
  rcases Nat.lt_trichotomy i j with h | h | h
  · have hlt := hi.after (h.trans_le hj.le)
    obtain ⟨k, rfl⟩ : ∃ k, j = k + 1 := ⟨j - 1, by omega⟩
    have hle := hj.before k rfl
    have := time_le_time (c := c) (Nat.lt_succ_iff.mp h) hj.le
    omega
  · exact h
  · have hlt := hj.after (h.trans_le hi.le)
    obtain ⟨k, rfl⟩ : ∃ k, i = k + 1 := ⟨i - 1, by omega⟩
    have hle := hi.before k rfl
    have := time_le_time (c := c) (Nat.lt_succ_iff.mp h) hi.le
    omega

/-- Between two jumps the offset is theirs. -/
theorem offset_eq (h : IsPlace c.time c.count t i) : c.offset t = c.ahead i := by
  rw [offset, place_unique (isPlace_bisectRight c.times t) h]

/-- Every time has a place. -/
theorem exists_place (c : JumpingClock) (t : ℤ) : ∃ i, IsPlace c.time c.count t i :=
  ⟨_, isPlace_bisectRight c.times t⟩

/-- From one moment to the next the clock advances by one, unless it jumps. -/
theorem reading_succ (c : JumpingClock) (t : ℤ) :
    c.reading (t + 1) = c.reading t + 1 ∨
      ∃ i < c.count, c.time i = t + 1 ∧ c.reading t + 1 = c.jumpsFrom i ∧
        c.reading (t + 1) = c.jumpsTo i := by
  obtain ⟨i, hi⟩ := c.exists_place t
  by_cases hjump : i < c.count ∧ c.time i = t + 1
  · obtain ⟨hlt, htime⟩ := hjump
    have hnext : IsPlace c.time c.count (t + 1) (i + 1) := by
      refine ⟨hlt, fun k hk => ?_, fun h => ?_⟩
      · obtain rfl := Nat.succ.inj hk
        exact htime.le
      · exact htime ▸ time_lt_time (Nat.lt_succ_self i) h
    refine Or.inr ⟨i, hlt, htime, ?_, ?_⟩
    · rw [reading, offset_eq hi, jumpsFrom]
      omega
    · rw [reading, offset_eq hnext, jumpsTo, htime]
  · have hnext : IsPlace c.time c.count (t + 1) i := by
      refine ⟨hi.le, fun k hk => (hi.before k hk).trans (by omega), fun h => ?_⟩
      have hlt := hi.after h
      have hne : c.time i ≠ t + 1 := fun heq => hjump ⟨h, heq⟩
      omega
    refine Or.inl ?_
    rw [reading, reading, offset_eq hi, offset_eq hnext]
    omega

/-- A jump is shown at its time. -/
theorem reading_time (hi : i < c.count) : c.reading (c.time i) = c.jumpsTo i := by
  have hplace : IsPlace c.time c.count (c.time i) (i + 1) := by
    refine ⟨hi, fun k hk => ?_, fun h => time_lt_time (Nat.lt_succ_self i) h⟩
    obtain rfl := Nat.succ.inj hk
    exact le_rfl
  rw [reading, offset_eq hplace, jumpsTo]

/-- Right before a jump the clock is about to show where it jumps from. -/
theorem reading_time_sub_one (hi : i < c.count) :
    c.reading (c.time i - 1) = c.jumpsFrom i - 1 := by
  have hplace : IsPlace c.time c.count (c.time i - 1) i := by
    refine ⟨hi.le, fun k hk => ?_, fun _ => by omega⟩
    have := time_lt_time (c := c) (i := k) (by omega) hi
    omega
  rw [reading, offset_eq hplace, jumpsFrom]
  omega

/-- Where the clock never jumps back over a reading, it stays past it. -/
theorem reading_mono_of (h : ∀ i < c.count, ¬c.RepeatsAt i m) {t' : ℤ} (hle : t ≤ t')
    (ht : m ≤ c.reading t) : m ≤ c.reading t' := by
  induction t', hle using Int.leInduction with
  | base => exact ht
  | succ t' _ ih =>
    rcases c.reading_succ t' with hnext | ⟨i, hi, -, hfrom, hto⟩
    · omega
    · have hrepeats := h i hi
      rw [RepeatsAt] at hrepeats
      omega

end Reading

/-! ### The time of a reading -/

/-- The time of a reading, given its place among the walls. -/
def firstAt (c : JumpingClock) (m : ℤ) (j : ℕ) : ℤ := m - c.ahead j

section First

variable {c : JumpingClock} {i j : ℕ} {m : ℤ}

theorem time_le_firstAt (h : IsPlace c.wall c.count m j) (hi : i + 1 = j) :
    c.time i ≤ c.firstAt m j := by
  have hwall := (c.jumpsTo_le_wall (i := i)).trans (h.before i hi)
  subst hi
  rw [jumpsTo] at hwall
  rw [firstAt]
  omega

/-- The time found lies before the next jump, unless that jump skips the reading or begins
at it. -/
theorem firstAt_lt_time_or (h : IsPlace c.wall c.count m j) (hj : j < c.count) :
    c.firstAt m j < c.time j ∨ c.jumpsFrom j ≤ m ∧ m < c.jumpsTo j := by
  have hwall := h.after hj
  rw [wall] at hwall
  rw [firstAt, jumpsFrom, jumpsTo]
  rcases max_choice (c.ahead j) (c.ahead (j + 1)) with hmax | hmax
  · rw [hmax] at hwall
    omega
  · rw [hmax] at hwall
    omega

/-- At the time found for it a reading that is not skipped is reached, and not before. -/
theorem reading_firstAt (h : IsPlace c.wall c.count m j)
    (hskips : ∀ i < c.count, ¬c.SkipsAt i m) :
    m ≤ c.reading (c.firstAt m j) ∧ c.reading (c.firstAt m j - 1) < m := by
  have hlt : j < c.count → c.firstAt m j ≤ c.time j ∧
      (c.firstAt m j = c.time j → m = c.jumpsFrom j ∧ m < c.jumpsTo j) := by
    intro hj
    rcases firstAt_lt_time_or h hj with hlt | ⟨hfrom, hto⟩
    · exact ⟨hlt.le, fun heq => absurd heq hlt.ne⟩
    · have hskip := hskips j hj
      rw [SkipsAt] at hskip
      have hm : m = c.jumpsFrom j := by omega
      refine ⟨?_, fun _ => ⟨hm, hto⟩⟩
      rw [firstAt, hm, jumpsFrom]
      omega
  by_cases hjump : j < c.count ∧ c.firstAt m j = c.time j
  · obtain ⟨hj, heq⟩ := hjump
    obtain ⟨hm, hto⟩ := (hlt hj).2 heq
    rw [heq, reading_time hj, reading_time_sub_one hj]
    omega
  · have hplace : IsPlace c.time c.count (c.firstAt m j) j := by
      refine ⟨h.le, fun i hi => time_le_firstAt h hi, fun hj => ?_⟩
      have hle := (hlt hj).1
      have hne : c.firstAt m j ≠ c.time j := fun heq => hjump ⟨hj, heq⟩
      omega
    have hreading : c.reading (c.firstAt m j) = m := by
      rw [reading, offset_eq hplace, firstAt]
      omega
    refine ⟨hreading.ge, ?_⟩
    rcases c.reading_succ (c.firstAt m j - 1) with hnext | ⟨i, hi, htime, hfrom, -⟩
    · rw [sub_add_cancel, hreading] at hnext
      omega
    · -- the jump that is shown there ends below the walls before the place
      have hi' : i + 1 = j := by
        have hafter : IsPlace c.time c.count (c.time i) (i + 1) := by
          refine ⟨hi, fun k hk => ?_, fun hk => time_lt_time (Nat.lt_succ_self i) hk⟩
          obtain rfl := Nat.succ.inj hk
          exact le_rfl
        rw [sub_add_cancel] at htime
        exact place_unique (htime ▸ hafter) hplace
      have hwall := (c.jumpsFrom_le_wall (i := i)).trans (h.before i hi')
      omega

/-- A reading that is not jumped over is reached once for all, at the time found for it. -/
theorem le_reading_iff (h : IsPlace c.wall c.count m j) (hjumps : ¬c.JumpsOver m) (t : ℤ) :
    m ≤ c.reading t ↔ c.firstAt m j ≤ t := by
  have hskips : ∀ i < c.count, ¬c.SkipsAt i m := fun i hi hs => hjumps ⟨i, hi, Or.inl hs⟩
  have hrepeats : ∀ i < c.count, ¬c.RepeatsAt i m := fun i hi hr => hjumps ⟨i, hi, Or.inr hr⟩
  obtain ⟨hreached, hbefore⟩ := reading_firstAt h hskips
  constructor
  · intro ht
    by_contra hlt
    have hle : t ≤ c.firstAt m j - 1 := by omega
    have := reading_mono_of hrepeats hle ht
    omega
  · intro hle
    exact reading_mono_of hrepeats hle hreached

/-- The time found for a reading is that of a jump only where the jump begins or ends at
the reading, or an earlier jump skips it. -/
theorem firstAt_eq_time (h : IsPlace c.wall c.count m j) (hi : i < c.count)
    (heq : c.firstAt m j = c.time i) :
    m = c.jumpsFrom i ∨ m = c.jumpsTo i ∨ ∃ k < i, c.SkipsAt k m := by
  rcases Nat.lt_trichotomy j i with hlt | rfl | hlt
  · have htime := time_lt_time hlt hi
    rcases firstAt_lt_time_or h (hlt.trans hi) with hbefore | ⟨hfrom, hto⟩
    · omega
    · refine Or.inr (Or.inr ⟨j, hlt, ?_, hto⟩)
      rw [firstAt] at heq
      rw [jumpsFrom]
      omega
  · refine Or.inl ?_
    rw [jumpsFrom, ← heq, firstAt]
    omega
  · obtain ⟨k, rfl⟩ : ∃ k, j = k + 1 := ⟨j - 1, by omega⟩
    rcases (Nat.lt_succ_iff.mp hlt).eq_or_lt with rfl | hlt'
    · refine Or.inr (Or.inl ?_)
      rw [jumpsTo, ← heq, firstAt]
      omega
    · have htime := time_lt_time hlt' (Nat.lt_of_succ_le h.le)
      have := time_le_firstAt h rfl
      omega

end First

/-! ### Windows -/

/-- The times found for two readings bound exactly the times of the readings in between,
of which there are some. -/
def Window (c : JumpingClock) (m m' s e : ℤ) : Prop :=
  s < e ∧ ∀ t, s ≤ t ∧ t < e ↔ m ≤ c.reading t ∧ c.reading t < m'

/-- No jump goes over either of two readings, or across what lies between them. -/
structure Regular (c : JumpingClock) (m m' : ℤ) : Prop where
  first : ¬c.JumpsOver m
  last : ¬c.JumpsOver m'
  between : ¬c.JumpsAcross m m'

section Window

variable {c : JumpingClock} {i j j' : ℕ} {m m' : ℤ}

theorem window_of_regular (h : IsPlace c.wall c.count m j) (h' : IsPlace c.wall c.count m' j')
    (hlt : m < m') (hregular : c.Regular m m') :
    c.Window m m' (c.firstAt m j) (c.firstAt m' j') := by
  have hfirst := le_reading_iff h hregular.first
  have hlast := le_reading_iff h' hregular.last
  refine ⟨?_, fun t => ?_⟩
  · have hle : c.firstAt m j ≤ c.firstAt m' j' := by
      rw [← hfirst]
      exact hlt.le.trans ((hlast _).mpr le_rfl)
    refine lt_of_le_of_ne hle fun heq => ?_
    have hreached := (hlast _).mpr le_rfl
    have hbefore : ¬m ≤ c.reading (c.firstAt m' j' - 1) := by
      rw [hfirst, heq]
      omega
    -- from below the first reading to the second in one moment
    rcases c.reading_succ (c.firstAt m' j' - 1) with hnext | ⟨i, hi, -, hfrom, hto⟩
    · rw [sub_add_cancel] at hnext
      omega
    · rw [sub_add_cancel] at hto
      exact hregular.between ⟨i, hi, by omega, by omega⟩
  · rw [← hfirst t, ← not_le, ← hlast t, not_le]

/-- Within a window the clock cannot skip the first reading, nor the last, if it jumps no
farther than from one to the other. -/
theorem not_skipsAt_of_window (h : IsPlace c.wall c.count m j) (h' : IsPlace c.wall c.count m' j')
    (hshort : ∀ i < c.count, |c.jumpsTo i - c.jumpsFrom i| ≤ m' - m)
    (hwindow : c.Window m m' (c.firstAt m j) (c.firstAt m' j')) (hi : i < c.count) :
    ¬c.SkipsAt i m ∧ ¬c.SkipsAt i m' := by
  obtain ⟨-, hwindow⟩ := hwindow
  -- a jump over an end of the window takes place at that end
  have hstart : ∀ k < c.count, c.SkipsAt k m → c.firstAt m j = c.time k := by
    rintro k hk ⟨hfrom, hto⟩
    have hle := (abs_le.mp (hshort k hk)).2
    have hin := (hwindow (c.time k)).mpr (by rw [reading_time hk]; omega)
    have hout : ¬(c.firstAt m j ≤ c.time k - 1 ∧ c.time k - 1 < c.firstAt m' j') := by
      rw [hwindow, reading_time_sub_one hk]
      omega
    omega
  have hend : ∀ k < c.count, c.SkipsAt k m' → c.firstAt m' j' = c.time k := by
    rintro k hk ⟨hfrom, hto⟩
    have hle := (abs_le.mp (hshort k hk)).2
    have hin := (hwindow (c.time k - 1)).mpr (by rw [reading_time_sub_one hk]; omega)
    have hout : ¬(c.firstAt m j ≤ c.time k ∧ c.time k < c.firstAt m' j') := by
      rw [hwindow, reading_time hk]
      omega
    omega
  constructor
  · intro hskips
    rcases firstAt_eq_time h hi (hstart i hi hskips) with heq | heq | ⟨k, hk, hskips'⟩
    · exact hskips.1.ne heq.symm
    · exact hskips.2.ne heq
    · have := time_lt_time hk hi
      have h₁ := hstart i hi hskips
      have h₂ := hstart k (hk.trans hi) hskips'
      omega
  · intro hskips
    rcases firstAt_eq_time h' hi (hend i hi hskips) with heq | heq | ⟨k, hk, hskips'⟩
    · exact hskips.1.ne heq.symm
    · exact hskips.2.ne heq
    · have := time_lt_time hk hi
      have h₁ := hend i hi hskips
      have h₂ := hend k (hk.trans hi) hskips'
      omega

/-- Where no jump is longer than what lies between two readings, the times found for them
bound a window only if they are regular. -/
theorem regular_of_window (h : IsPlace c.wall c.count m j) (h' : IsPlace c.wall c.count m' j')
    (hshort : ∀ i < c.count, |c.jumpsTo i - c.jumpsFrom i| ≤ m' - m)
    (hwindow : c.Window m m' (c.firstAt m j) (c.firstAt m' j')) : c.Regular m m' := by
  have hskips := fun i hi => not_skipsAt_of_window (i := i) h h' hshort hwindow hi
  obtain ⟨hlt, hwindow⟩ := hwindow
  have hfirst : ¬c.JumpsOver m := by
    rintro ⟨i, hi, hskip | ⟨hto, hfrom⟩⟩
    · exact (hskips i hi).1 hskip
    · -- a jump back over the first reading leaves the window
      have hle := (abs_le.mp (hshort i hi)).1
      have hin := (hwindow (c.time i - 1)).mpr (by rw [reading_time_sub_one hi]; omega)
      have hout : ¬(c.firstAt m j ≤ c.time i ∧ c.time i < c.firstAt m' j') := by
        rw [hwindow, reading_time hi]
        omega
      rcases firstAt_eq_time h' hi (by omega) with heq | heq | ⟨k, hk, hskip⟩
      · omega
      · omega
      · exact (hskips k (hk.trans hi)).2 hskip
  have hlast : ¬c.JumpsOver m' := by
    rintro ⟨i, hi, hskip | ⟨hto, hfrom⟩⟩
    · exact (hskips i hi).2 hskip
    · -- a jump back over the last reading enters the window
      have hle := (abs_le.mp (hshort i hi)).1
      have hin := (hwindow (c.time i)).mpr (by rw [reading_time hi]; omega)
      have hout : ¬(c.firstAt m j ≤ c.time i - 1 ∧ c.time i - 1 < c.firstAt m' j') := by
        rw [hwindow, reading_time_sub_one hi]
        omega
      rcases firstAt_eq_time h hi (by omega) with heq | heq | ⟨k, hk, hskip⟩
      · omega
      · omega
      · exact (hskips k (hk.trans hi)).1 hskip
  refine ⟨hfirst, hlast, ?_⟩
  rintro ⟨i, hi, hfrom, hto⟩
  have hstart := le_reading_iff h hfirst
  have hend := le_reading_iff h' hlast
  have h₁ : ¬c.firstAt m j ≤ c.time i - 1 := by
    rw [← hstart, reading_time_sub_one hi]
    omega
  have h₂ : c.firstAt m' j' ≤ c.time i := by
    rw [← hend, reading_time hi]
    exact hto
  omega

end Window

end JumpingClock
