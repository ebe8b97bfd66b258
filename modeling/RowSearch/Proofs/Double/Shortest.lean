import Mathlib.Algebra.Order.Field.Power
import Mathlib.Data.Rat.Cast.Order
import Mathlib.Tactic.FieldSimp
import Mathlib.Tactic.Linarith
import Mathlib.Tactic.Positivity
import Mathlib.Tactic.Ring
import RowSearch.Double.Shortest
import RowSearch.Proofs.Double.Rounding

/-! # The digits of a double

The numbers that round to a double form an interval around it, and the intervals of different
doubles have nothing in common: where two meet, one of the doubles is odd and leaves the meeting
point to the other. Seventeen digits make a grid that is finer than any interval, so the search for
the fewest digits ends inside the interval, and the digits tell the double from all others.
-/
namespace RowSearch.Double

/-- A magnitude that a double has: below the limit and on the grid of its neighbours. -/
structure OnGrid (units : Nat) : Prop where
  below : units < limit
  grid : unit units ∣ units

/-- The distance to the double below, which is half as far for a power of two. -/
def unitBelow (units : Nat) : Nat :=
  if 1 < unit units ∧ units = twoPow units.log2 then unit units / 2 else unit units

theorem interval_eq (units : Nat) : interval units =
    ⟨4 * units - 2 * unitBelow units, 4 * units + 2 * unit units, units / unit units % 2 == 0⟩ :=
  rfl

section Neighbours
variable {u v g : Nat}

theorem add_le_of_dvd (hu : g ∣ u) (hv : g ∣ v) (h : u < v) : u + g ≤ v := by
  obtain ⟨a, rfl⟩ := hu
  obtain ⟨b, rfl⟩ := hv
  have hab : a + 1 ≤ b := Nat.lt_of_mul_lt_mul_left h
  calc g * a + g = g * (a + 1) := (Nat.mul_succ g a).symm
    _ ≤ g * b := Nat.mul_le_mul_left g hab

theorem unit_dvd_twoPow {k : Nat} (h : u.log2 - 52 ≤ k) : unit u ∣ twoPow k :=
  Nat.pow_dvd_pow 2 h

theorem lt_twoPow_of_log2_lt {k : Nat} (h : u.log2 < k) : u < twoPow k :=
  Nat.lt_of_lt_of_le Nat.lt_log2_self (Nat.pow_le_pow_right Nat.zero_lt_two h)

theorem log2_lt_of_lt_twoPow {k : Nat} (hpos : 0 < u) (h : u < twoPow k) : u.log2 < k :=
  (Nat.log2_lt (Nat.ne_of_gt hpos)).mpr h

/-- Nothing lies between a double and the next one. -/
theorem add_unit_le (hu : OnGrid u) (hv : OnGrid v) (h : u < v) : u + unit u ≤ v := by
  rcases Nat.lt_or_eq_of_le (log2_mono (Nat.le_of_lt h)) with hlog | hlog
  · have hself : twoPow v.log2 ≤ v := Nat.log2_self_le (by omega)
    have hpower : u + unit u ≤ twoPow v.log2 :=
      add_le_of_dvd hu.grid (unit_dvd_twoPow (by omega)) (lt_twoPow_of_log2_lt hlog)
    omega
  · have hunit : unit v = unit u := by rw [unit, unit, hlog]
    exact add_le_of_dvd hu.grid (hunit ▸ hv.grid) h

theorem unit_eq_two_mul (h : 1 < unit v) : unit v = 2 * twoPow (v.log2 - 53) := by
  have hlog : v.log2 - 52 = v.log2 - 53 + 1 := by
    by_contra hne
    have hzero : v.log2 - 52 = 0 := by omega
    rw [unit, hzero] at h
    exact absurd h (by decide)
  rw [unit, hlog]
  exact Nat.pow_succ'

/-- Nothing lies between a double and the one before it. -/
theorem add_unitBelow_le (hu : OnGrid u) (hv : OnGrid v) (h : u < v) : u + unitBelow v ≤ v := by
  have hself : twoPow v.log2 ≤ v := Nat.log2_self_le (by omega)
  have hnext := add_unit_le hu hv h
  have hlogs := log2_mono (Nat.le_of_lt h)
  unfold unitBelow
  split
  · next hpower =>
    obtain ⟨hone, heq⟩ := hpower
    have htwo := unit_eq_two_mul hone
    -- a double with the next smaller exponent has half the unit, one below it is far away
    by_cases hlog : v.log2 ≤ u.log2 + 1
    · have hunit : unit v / 2 ≤ unit u := by
        rw [htwo, Nat.mul_div_cancel_left _ Nat.zero_lt_two]
        exact Nat.pow_le_pow_right Nat.zero_lt_two (by omega)
      omega
    · have hlt : u < twoPow (v.log2 - 1) := lt_twoPow_of_log2_lt (by omega)
      have hle : unit v / 2 ≤ twoPow (v.log2 - 1) := by
        rw [htwo, Nat.mul_div_cancel_left _ Nat.zero_lt_two]
        exact Nat.pow_le_pow_right Nat.zero_lt_two (by omega)
      have hdouble : twoPow v.log2 = 2 * twoPow (v.log2 - 1) := by
        conv_lhs => rw [show v.log2 = v.log2 - 1 + 1 by omega]
        exact Nat.pow_succ'
      omega
  · next hpower =>
    by_cases hlog : u.log2 = v.log2
    · have hunit : unit v = unit u := by rw [unit, unit, hlog]
      omega
    · have hlt : u < twoPow v.log2 := lt_twoPow_of_log2_lt (by omega)
      by_cases heq : v = twoPow v.log2
      · have hpos := unit_pos v
        omega
      · have hgap : twoPow v.log2 + unit v ≤ v :=
          add_le_of_dvd (unit_dvd_twoPow (by omega)) hv.grid (by omega)
        omega

/-- Of two doubles next to each other one is odd. -/
theorem parity_of_next (hu : OnGrid u) (hv : OnGrid v) (h : u + unit u = v)
    (hbelow : u + unitBelow v = v) : ¬ (u / unit u % 2 = 0 ∧ v / unit v % 2 = 0) := by
  have hpos := unit_pos u
  obtain ⟨a, ha⟩ := hu.grid
  obtain ⟨b, hb⟩ := hv.grid
  have hua : u / unit u = a := Nat.div_eq_of_eq_mul_right hpos ha
  have hvb : v / unit v = b := Nat.div_eq_of_eq_mul_right (unit_pos v) hb
  have hsame : unitBelow v = unit u := by omega
  rw [hua, hvb]
  have hnext : unit u * (a + 1) = v := by rw [Nat.mul_succ, ← ha, h]
  unfold unitBelow at hsame
  split at hsame
  · next hpower =>
    obtain ⟨hone, heq⟩ := hpower
    have hunit : unit u = twoPow (v.log2 - 53) := by
      rw [← hsame, unit_eq_two_mul hone, Nat.mul_div_cancel_left _ Nat.zero_lt_two]
    have hlog : v.log2 = v.log2 - 53 + 53 := by
      by_contra hne
      have hzero : v.log2 - 52 = 0 := by omega
      rw [unit, hzero] at hone
      exact absurd hone (by decide)
    have hodd : a + 1 = twoPow 53 := by
      have hmul : unit u * (a + 1) = unit u * twoPow 53 := by
        rw [hnext, hunit]
        conv_lhs => rw [heq, hlog]
        exact Nat.pow_add 2 _ _
      exact Nat.eq_of_mul_eq_mul_left hpos hmul
    have hvalue : twoPow 53 = 2 * 4503599627370496 := rfl
    omega
  · have hstep : b = a + 1 := by
      rw [hb, hsame] at hnext
      exact (Nat.eq_of_mul_eq_mul_left hpos hnext).symm
    omega

end Neighbours

section Values

/-- The number that a decimal stands for, in units of doubles. -/
def Decimal.units (d : Decimal) : ℚ := 4 * one * (d.digits * 10 ^ d.exponent)

/-- Whether a number, in quarters of a unit, lies in an interval. -/
def Interval.Contains (i : Interval) (x : ℚ) : Prop :=
  if i.closed then i.low ≤ x ∧ x ≤ i.high else i.low < x ∧ x < i.high

theorem zpow_mul_tenPow (e : ℤ) :
    (10 : ℚ) ^ e * (tenPow (-e).toNat : ℕ) = (tenPow e.toNat : ℕ) := by
  have hten : (10 : ℚ) ≠ 0 := by norm_num
  have hcast (k : ℕ) : ((tenPow k : ℕ) : ℚ) = (10 : ℚ) ^ (k : ℤ) := by
    rw [zpow_natCast]
    exact Nat.cast_pow 10 k
  rw [hcast, hcast, ← zpow_add₀ hten]
  congr 1
  omega

theorem Interval.holds_iff (i : Interval) (d : Decimal) :
    i.holds d = true ↔ i.Contains d.units := by
  have hdown : (0 : ℚ) < (tenPow (-d.exponent).toNat : ℕ) :=
    Nat.cast_pos.mpr (Nat.pow_pos (by decide))
  have hx : ((4 * d.digits * one * tenPow d.exponent.toNat : ℕ) : ℚ) =
      d.units * (tenPow (-d.exponent).toNat : ℕ) := by
    rw [Nat.cast_mul, ← zpow_mul_tenPow, Decimal.units]
    push_cast
    ring
  have hle (m n k : ℕ) (x : ℚ) (hk : (0 : ℚ) < k) (hn : (n : ℚ) = x * k) :
      (m * k ≤ n ↔ (m : ℚ) ≤ x) ∧ (n ≤ m * k ↔ x ≤ m) ∧ (m * k < n ↔ (m : ℚ) < x) ∧
        (n < m * k ↔ x < m) := by
    rw [← Nat.cast_le (α := ℚ), ← Nat.cast_le (α := ℚ), ← Nat.cast_lt (α := ℚ),
      ← Nat.cast_lt (α := ℚ), Nat.cast_mul, hn]
    exact ⟨mul_le_mul_iff_left₀ hk, mul_le_mul_iff_left₀ hk, mul_lt_mul_iff_left₀ hk,
      mul_lt_mul_iff_left₀ hk⟩
  obtain ⟨hlow, _, hlow', _⟩ := hle i.low _ _ _ hdown hx
  obtain ⟨_, hhigh, _, hhigh'⟩ := hle i.high _ _ _ hdown hx
  unfold Interval.holds Interval.Contains
  dsimp only
  cases i.closed with
  | true => rw [if_pos rfl, if_pos rfl, Bool.and_eq_true, decide_eq_true_eq, decide_eq_true_eq,
      hlow, hhigh]
  | false => rw [if_neg Bool.false_ne_true, if_neg Bool.false_ne_true, Bool.and_eq_true,
      decide_eq_true_eq, decide_eq_true_eq, hlow', hhigh']

theorem Interval.Contains.bounds {i : Interval} {x : ℚ} (h : i.Contains x) :
    i.low ≤ x ∧ x ≤ i.high := by
  unfold Contains at h
  split at h
  · exact h
  · exact ⟨h.1.le, h.2.le⟩

theorem Interval.contains_of_lt {i : Interval} {x : ℚ} (hlow : i.low < x) (hhigh : x < i.high) :
    i.Contains x := by
  unfold Contains
  split
  · exact ⟨hlow.le, hhigh.le⟩
  · exact ⟨hlow, hhigh⟩

/-- The intervals of two doubles have nothing in common. -/
theorem interval_disjoint {u v : ℕ} (hu : OnGrid u) (hv : OnGrid v) (h : u < v) {x : ℚ}
    (hx : (interval u).Contains x) : ¬ (interval v).Contains x := by
  intro hx'
  have hnext := add_unit_le hu hv h
  have hbelow := add_unitBelow_le hu hv h
  have hhigh := hx.bounds.2
  have hlow := hx'.bounds.1
  rw [interval_eq] at hhigh hlow
  have hmeet : (4 * u + 2 * unit u : ℕ) ≤ 4 * v - 2 * unitBelow v := by omega
  have hmeet' : ((4 * u + 2 * unit u : ℕ) : ℚ) ≤ (4 * v - 2 * unitBelow v : ℕ) :=
    Nat.cast_le.mpr hmeet
  -- the intervals meet in one point at most, and then both hold their ends
  have heq : ((4 * u + 2 * unit u : ℕ) : ℚ) = (4 * v - 2 * unitBelow v : ℕ) :=
    le_antisymm hmeet' (hlow.trans hhigh)
  have hends := Nat.cast_injective heq
  have hparity := parity_of_next hu hv (by omega) (by omega)
  unfold Interval.Contains at hx hx'
  rw [interval_eq] at hx hx'
  dsimp only at hx hx' hlow hhigh
  by_cases hclosed : u / unit u % 2 = 0
  · have hopen : ¬ v / unit v % 2 = 0 := fun hv => hparity ⟨hclosed, hv⟩
    rw [if_neg (by simpa using hopen)] at hx'
    linarith [hx'.1]
  · rw [if_neg (by simpa using hclosed)] at hx
    linarith [hx.2]

end Values

section Search
variable {i : Interval} {units : ℕ} {exponent : ℤ}

/-- A decimal that a grid offers lies in the interval. -/
theorem holds_of_neighbour? {d : Decimal} (h : neighbour? i units exponent = some d) :
    i.holds d = true := by
  unfold neighbour? at h
  dsimp only at h
  split at h
  · next hbelow habove =>
    cases h
    unfold divNearest
    dsimp only
    split
    · exact habove
    · exact hbelow
  · next hbelow _ =>
    cases h
    exact hbelow
  · next _ habove =>
    cases h
    exact habove
  · cases h

theorem holds_of_search {steps : ℕ} (k : ℕ) (hk : k < steps)
    (h : (neighbour? i units (exponent - k)).isSome = true) :
    i.holds (search i units exponent steps) = true := by
  -- an earlier grid that has a point ends the search as well
  induction k generalizing exponent steps with
  | zero =>
    obtain ⟨steps, rfl⟩ := Nat.exists_eq_succ_of_ne_zero (by omega : steps ≠ 0)
    obtain ⟨d, hd⟩ := Option.isSome_iff_exists.mp h
    rw [Int.natCast_zero, Int.sub_zero] at hd
    rw [search, hd]
    exact holds_of_neighbour? hd
  | succ k ih =>
    obtain ⟨steps, rfl⟩ := Nat.exists_eq_succ_of_ne_zero (by omega : steps ≠ 0)
    rw [search]
    cases hfirst : neighbour? i units exponent with
    | some d => exact holds_of_neighbour? hfirst
    | none =>
      have hexponent : exponent - (k + 1 : ℕ) = exponent - 1 - k := by omega
      rw [hexponent] at h
      exact ih (by omega) h

/-- A double lies between the two points of a grid that are next to it. -/
theorem between_points (units : ℕ) (exponent : ℤ) :
    let point : ℕ := units * tenPow (-exponent).toNat / (one * tenPow exponent.toNat)
    (point : ℚ) * (one * 10 ^ exponent) ≤ units ∧
      (units : ℚ) < (point + 1) * (one * 10 ^ exponent) := by
  intro point
  have hdown : (0 : ℚ) < (tenPow (-exponent).toNat : ℕ) :=
    Nat.cast_pos.mpr (Nat.pow_pos (by decide))
  have hden : 0 < one * tenPow exponent.toNat :=
    Nat.mul_pos (twoPow_pos 1074) (Nat.pow_pos (by decide))
  have hlow : point * (one * tenPow exponent.toNat) ≤ units * tenPow (-exponent).toNat :=
    Nat.div_mul_le_self _ _
  have hhigh : units * tenPow (-exponent).toNat < (point + 1) * (one * tenPow exponent.toNat) :=
    Nat.lt_mul_of_div_lt (Nat.lt_succ_self _) hden
  have hstep : ((one * tenPow exponent.toNat : ℕ) : ℚ) =
      one * 10 ^ exponent * (tenPow (-exponent).toNat : ℕ) := by
    rw [Nat.cast_mul, ← zpow_mul_tenPow exponent, mul_assoc]
  rw [← Nat.cast_le (α := ℚ), Nat.cast_mul point, hstep, Nat.cast_mul, ← mul_assoc] at hlow
  rw [← Nat.cast_lt (α := ℚ), Nat.cast_mul (point + 1), hstep, Nat.cast_mul, ← mul_assoc,
    Nat.cast_add, Nat.cast_one] at hhigh
  exact ⟨le_of_mul_le_mul_right hlow hdown, lt_of_mul_lt_mul_right hhigh hdown.le⟩

/-- A grid that is finer than the interval has a point in it. -/
theorem neighbour?_of_fine (hbelow : unitBelow units ≤ units)
    (hfine : 2 * (one * (10 : ℚ) ^ exponent) < unit units + unitBelow units) :
    (neighbour? (interval units) units exponent).isSome = true := by
  have hpoints := between_points units exponent
  dsimp only at hpoints
  generalize hpoint : units * tenPow (-exponent).toNat / (one * tenPow exponent.toNat) = point
    at hpoints
  obtain ⟨hpoint_le, hlt_point⟩ := hpoints
  have hunit : (0 : ℚ) < unit units := Nat.cast_pos.mpr (unit_pos units)
  have hlow : ((4 * units - 2 * unitBelow units : ℕ) : ℚ) = 4 * units - 2 * unitBelow units := by
    rw [Nat.cast_sub (by omega)]
    push_cast
    rfl
  have hhigh : ((4 * units + 2 * unit units : ℕ) : ℚ) = 4 * units + 2 * unit units := by
    push_cast
    rfl
  have hsome : (interval units).holds ⟨point, exponent⟩ = true ∨
      (interval units).holds ⟨point + 1, exponent⟩ = true := by
    rw [Interval.holds_iff, Interval.holds_iff, interval_eq]
    unfold Decimal.units
    dsimp only
    -- either the point below is near enough, or the gap between the points puts the one above there
    by_cases hnear : 2 * (units - point * (one * (10 : ℚ) ^ exponent)) < unitBelow units
    · left
      apply Interval.contains_of_lt
      · rw [hlow]
        linarith
      · rw [hhigh]
        linarith
    · right
      rw [not_lt] at hnear
      rw [Nat.cast_add, Nat.cast_one]
      apply Interval.contains_of_lt
      · rw [hlow]
        linarith
      · rw [hhigh]
        linarith
  unfold neighbour?
  dsimp only
  rw [hpoint]
  rcases hsome with h | h
  · rw [h]
    cases (interval units).holds ⟨point + 1, exponent⟩ <;> rfl
  · rw [h]
    cases (interval units).holds ⟨point, exponent⟩ <;> rfl

end Search

section Digits
variable {u v : ℕ}

theorem belowPower_iff (k : ℤ) : belowPower u k = true ↔ (u : ℚ) < one * 10 ^ k := by
  have hdown : (0 : ℚ) < (tenPow (-k).toNat : ℕ) := Nat.cast_pos.mpr (Nat.pow_pos (by decide))
  have hpower : ((one * tenPow k.toNat : ℕ) : ℚ) = one * 10 ^ k * (tenPow (-k).toNat : ℕ) := by
    rw [Nat.cast_mul, ← zpow_mul_tenPow k, mul_assoc]
  unfold belowPower
  rw [decide_eq_true_eq, ← Nat.cast_lt (α := ℚ), hpower, Nat.cast_mul]
  exact mul_lt_mul_iff_left₀ hdown

theorem ten_zpow_le_of_pow {j n : ℤ} {p q : ℕ} (hq : q ≠ 0) (hexponent : j * q ≤ p * n)
    (h : ((10 : ℚ) ^ p) ^ n ≤ (2 ^ q) ^ n) : (10 : ℚ) ^ j ≤ 2 ^ n := by
  rw [← pow_le_pow_iff_left₀ (by positivity) (by positivity) hq]
  calc ((10 : ℚ) ^ j) ^ q = 10 ^ (j * q) := by rw [zpow_mul, zpow_natCast]
    _ ≤ 10 ^ (p * n) := zpow_le_zpow_right₀ (by norm_num) hexponent
    _ = (10 ^ p) ^ n := by rw [zpow_mul, zpow_natCast]
    _ ≤ (2 ^ q) ^ n := h
    _ = (2 ^ n) ^ q := by rw [← zpow_natCast, ← zpow_natCast, zpow_comm]

/-- The decimal exponent that a binary one gives is too large by one at most. -/
theorem ten_zpow_le_two_zpow {k n : ℤ} (hk : 100000 * k ≤ 30103 * n) (hlow : -1075 < n)
    (hhigh : n < 1075) : (10 : ℚ) ^ (k - 1) ≤ 2 ^ n := by
  -- powers of ten and two that are close enough on either side for all exponents of doubles
  rcases le_or_gt 0 n with hn | hn
  · apply ten_zpow_le_of_pow (p := 59) (q := 196) (by decide) (by omega)
    lift n to ℕ using hn
    rw [zpow_natCast, zpow_natCast]
    exact pow_le_pow_left₀ (by positivity) (by norm_num) n
  · apply ten_zpow_le_of_pow (p := 28) (q := 93) (by decide) (by omega)
    obtain ⟨m, rfl⟩ : ∃ m : ℕ, n = -m := ⟨(-n).toNat, by omega⟩
    rw [zpow_neg, zpow_neg, zpow_natCast, zpow_natCast]
    exact inv_anti₀ (by positivity) (pow_le_pow_left₀ (by positivity) (by norm_num) m)

theorem cast_twoPow (k : ℕ) : ((twoPow k : ℕ) : ℚ) = 2 ^ (k : ℤ) := by
  rw [zpow_natCast]
  exact Nat.cast_pow 2 k

theorem one_mul_zpow_le (hu : u < limit) (hpos : 0 < u) :
    (one : ℚ) * 10 ^ (((u.log2 : ℤ) - 1074) * 30103 / 100000 - 1) ≤ u := by
  have hlog : u.log2 < 2098 := log2_lt_of_lt_twoPow hpos hu
  have hone : (one : ℚ) = 2 ^ ((1074 : ℕ) : ℤ) := cast_twoPow 1074
  have hpower : (10 : ℚ) ^ (((u.log2 : ℤ) - 1074) * 30103 / 100000 - 1) ≤
      2 ^ ((u.log2 : ℤ) - 1074) := ten_zpow_le_two_zpow (by omega) (by omega) (by omega)
  calc (one : ℚ) * 10 ^ (((u.log2 : ℤ) - 1074) * 30103 / 100000 - 1)
      ≤ 2 ^ ((1074 : ℕ) : ℤ) * 2 ^ ((u.log2 : ℤ) - 1074) := by
        rw [hone]
        exact mul_le_mul_of_nonneg_left hpower (by positivity)
    _ = (twoPow u.log2 : ℕ) := by
        rw [← zpow_add₀ (by norm_num), cast_twoPow]
        congr 1
        omega
    _ ≤ u := Nat.cast_le.mpr (Nat.log2_self_le (by omega))

/-- The scale is not too large. -/
theorem scale_le (hu : u < limit) (hpos : 0 < u) : (one : ℚ) * 10 ^ (scale u - 1) ≤ u := by
  unfold scale
  dsimp only
  split
  · exact one_mul_zpow_le hu hpos
  · next hfirst =>
    rw [belowPower_iff, not_lt] at hfirst
    split
    · rw [add_sub_cancel_right]
      exact hfirst
    · next hsecond =>
      rw [belowPower_iff, not_lt] at hsecond
      rw [show ∀ k : ℤ, k + 2 - 1 = k + 1 by intro k; omega]
      exact hsecond

theorem lt_mul_unit (u : ℕ) : u < twoPow 53 * unit u := by
  calc u < twoPow (u.log2 + 1) := Nat.lt_log2_self
    _ ≤ twoPow (53 + (u.log2 - 52)) := Nat.pow_le_pow_right Nat.zero_lt_two (by omega)
    _ = twoPow 53 * unit u := Nat.pow_add 2 _ _

/-- The gap below a double is that above it, or half of it below a power of two. -/
theorem unitBelow_cases (u : ℕ) :
    unitBelow u = unit u ∨ 2 * unitBelow u = unit u ∧ u = twoPow 52 * unit u := by
  unfold unitBelow
  split
  · next hpower =>
    obtain ⟨hone, heq⟩ := hpower
    right
    have htwo := unit_eq_two_mul hone
    have hlog : 52 ≤ u.log2 := by
      by_contra hlt
      have hzero : u.log2 - 52 = 0 := by omega
      rw [unit, hzero] at hone
      exact absurd hone (by decide)
    refine ⟨by omega, ?_⟩
    calc u = twoPow u.log2 := heq
      _ = twoPow (52 + (u.log2 - 52)) := by rw [Nat.add_sub_cancel' hlog]
      _ = twoPow 52 * unit u := Nat.pow_add 2 _ _
  · exact .inl rfl

/-- The grid of seventeen digits is finer than the interval of any double. -/
theorem fine (hu : u < limit) (hpos : 0 < u) :
    2 * ((one : ℚ) * 10 ^ (scale u - 1 - 16)) < unit u + unitBelow u := by
  have hscale := scale_le hu hpos
  have hstep : (one : ℚ) * 10 ^ (scale u - 1 - 16) * 10 ^ 16 = one * 10 ^ (scale u - 1) := by
    have hexponent : scale u - 1 - 16 + (16 : ℕ) = scale u - 1 := by omega
    rw [mul_assoc, ← zpow_natCast, ← zpow_add₀ (by norm_num), hexponent]
  have hlt : (u : ℚ) < 2 ^ 53 * unit u := by exact_mod_cast lt_mul_unit u
  generalize (one : ℚ) * 10 ^ (scale u - 1 - 16) = step at hstep ⊢
  generalize (one : ℚ) * 10 ^ (scale u - 1) = bound at hstep hscale
  -- the interval is narrower only at a power of two, which is small for its unit
  rcases unitBelow_cases u with h | ⟨h, heq⟩
  · rw [h]
    linarith
  · have h' : 2 * (unitBelow u : ℚ) = unit u := by exact_mod_cast h
    have heq' : (u : ℚ) = 2 ^ 52 * unit u := by exact_mod_cast heq
    linarith

/-- The digits of a double lie in its interval. -/
theorem holds_shortest (hu : OnGrid u) (hpos : 0 < u) : (interval u).holds (shortest u) = true := by
  have hunit : unit u ≤ u := Nat.le_of_dvd hpos hu.grid
  have hbelow : unitBelow u ≤ u := by
    have hcases := unitBelow_cases u
    omega
  exact holds_of_search 16 (by decide) (neighbour?_of_fine hbelow (fine hu.below hpos))

/-- The digits of different doubles stand for different numbers. -/
theorem shortest_inj (hu : OnGrid u) (hv : OnGrid v) (hu' : 0 < u) (hv' : 0 < v)
    (h : (shortest u).units = (shortest v).units) : u = v := by
  have hmem := (Interval.holds_iff _ _).mp (holds_shortest hu hu')
  have hmem' := (Interval.holds_iff _ _).mp (holds_shortest hv hv')
  rcases Nat.lt_trichotomy u v with hlt | heq | hgt
  · rw [h] at hmem
    exact absurd hmem' (interval_disjoint hu hv hlt hmem)
  · exact heq
  · rw [← h] at hmem'
    exact absurd hmem (interval_disjoint hv hu hgt hmem')

end Digits
end RowSearch.Double
