import Mathlib.Tactic.Common
import RowSearch.Double.Basic

/-! # Rounding whole numbers

Between two powers of two doubles are equally far apart, so a whole number is rounded to a multiple
of a unit that its leading digit decides. Rounding keeps the order of whole numbers, leaves those up
to `2 ^ 53` as they are, and moves no number by more than half its unit. So it merges neighbours at
most, and keeps integers apart that are a unit apart.
-/
namespace RowSearch.Double

section Quotients
variable {a b c : Nat}

theorem le_divNearest (hb : 0 < b) (h : c * b ≤ a) : c ≤ divNearest a b := by
  have hq : c ≤ a / b := (Nat.le_div_iff_mul_le hb).mpr h
  rw [divNearest]
  split <;> omega

theorem divNearest_le (h : a ≤ c * b) : divNearest a b ≤ c := by
  rcases Nat.eq_zero_or_pos b with rfl | hb
  · simp [divNearest, Nat.le_zero.mp h]
  · have hq : a / b ≤ c := Nat.div_le_of_le_mul (by rwa [Nat.mul_comm])
    rw [divNearest]
    split
    · next hround =>
      -- a quotient that is rounded up leaves a rest, so it is less than `c`
      have hne : a / b ≠ c := by
        intro heq
        have hdiv := Nat.div_add_mod a b
        rw [heq, Nat.mul_comm] at hdiv
        omega
      omega
    · exact hq

theorem divNearest_mono (hb : 0 < b) (h : a ≤ c) : divNearest a b ≤ divNearest c b := by
  rcases Nat.lt_or_eq_of_le (Nat.div_le_div_right h : a / b ≤ c / b) with hlt | heq
  · have ha : divNearest a b ≤ a / b + 1 := by
      rw [divNearest]
      split <;> omega
    have hc : c / b ≤ divNearest c b := le_divNearest hb (Nat.div_mul_le_self c b)
    omega
  · have hmod : a % b ≤ c % b := by
      have ha := Nat.div_add_mod a b
      have hc := Nat.div_add_mod c b
      rw [← heq] at hc
      omega
    rw [divNearest, divNearest, ← heq]
    split <;> split <;> omega

/-- The nearest multiple is at most half a step away. -/
theorem divNearest_near (hb : 0 < b) :
    2 * a ≤ 2 * (divNearest a b * b) + b ∧ 2 * (divNearest a b * b) ≤ 2 * a + b := by
  have hdiv := Nat.div_add_mod a b
  have hmod := Nat.mod_lt a hb
  rw [Nat.mul_comm] at hdiv
  rw [divNearest]
  split
  · rw [Nat.add_mul]
    constructor <;> omega
  · constructor <;> omega

end Quotients

theorem twoPow_pos (k : Nat) : 0 < twoPow k := Nat.two_pow_pos k

/-- How far apart the doubles around a whole number are, where that is at least one. -/
def unit (n : Nat) : Nat := twoPow (n.log2 - 52)

theorem unit_pos (n : Nat) : 0 < unit n := twoPow_pos _

theorem roundQuotient_one (n : Nat) : roundQuotient n 1 = divNearest n (unit n) * unit n := by
  simp [roundQuotient, unit]

section Whole
variable {m n w : Nat}

theorem roundQuotient_le (hw : unit n ∣ w) (h : n ≤ w) : roundQuotient n 1 ≤ w := by
  obtain ⟨c, rfl⟩ := hw
  rw [Nat.mul_comm] at h ⊢
  rw [roundQuotient_one]
  exact Nat.mul_le_mul_right _ (divNearest_le h)

theorem le_roundQuotient (hw : unit n ∣ w) (h : w ≤ n) : w ≤ roundQuotient n 1 := by
  obtain ⟨c, rfl⟩ := hw
  rw [Nat.mul_comm] at h ⊢
  rw [roundQuotient_one]
  exact Nat.mul_le_mul_right _ (le_divNearest (unit_pos n) h)

theorem roundQuotient_eq_self (h : n ≤ twoPow 53) : roundQuotient n 1 = n := by
  have hunit : unit n ∣ n := by
    rcases Nat.lt_or_eq_of_le h with hlt | rfl
    · have hlog : n.log2 - 52 = 0 := by
        by_cases hn : n = 0
        · simp [hn]
        · have := (Nat.log2_lt hn).mpr hlt
          omega
      simp [unit, hlog]
    · decide
  exact Nat.le_antisymm (roundQuotient_le hunit (Nat.le_refl n))
    (le_roundQuotient hunit (Nat.le_refl n))

theorem log2_mono (h : m ≤ n) : m.log2 ≤ n.log2 := by
  by_cases hm : m = 0
  · simp [hm]
  · exact (Nat.le_log2 (by omega)).mpr (Nat.le_trans (Nat.log2_self_le hm) h)

theorem roundQuotient_mono (h : m ≤ n) : roundQuotient m 1 ≤ roundQuotient n 1 := by
  rcases Nat.lt_or_eq_of_le (log2_mono h) with hlog | hlog
  · -- a power of two lies between the numbers, and rounding crosses it in neither direction
    have hn : n ≠ 0 := by
      rintro rfl
      exact Nat.not_lt_zero _ hlog
    have hle : twoPow n.log2 ≤ n := Nat.log2_self_le hn
    have hlt : m < twoPow n.log2 := by
      by_contra hge
      have hm : m ≠ 0 := by
        rintro rfl
        exact hge (twoPow_pos _)
      have := (Nat.le_log2 hm).mpr (Nat.not_lt.mp hge)
      omega
    exact Nat.le_trans (roundQuotient_le (Nat.pow_dvd_pow 2 (by omega)) (Nat.le_of_lt hlt))
      (le_roundQuotient (Nat.pow_dvd_pow 2 (by omega)) hle)
  · rw [roundQuotient_one, roundQuotient_one, unit, hlog]
    exact Nat.mul_le_mul_right _ (divNearest_mono (unit_pos n) h)

theorem roundQuotient_near (n : Nat) :
    2 * n ≤ 2 * roundQuotient n 1 + unit n ∧ 2 * roundQuotient n 1 ≤ 2 * n + unit n := by
  rw [roundQuotient_one]
  exact divNearest_near (unit_pos n)

theorem unit_le {k : Nat} (h : n < twoPow (k + 53)) : unit n ≤ twoPow k := by
  refine Nat.pow_le_pow_right (Nat.zero_lt_two) ?_
  by_cases hn : n = 0
  · simp [hn]
  · have := (Nat.log2_lt hn).mpr h
    omega

end Whole

def nearest (n : Int) : Int :=
  if n < 0 then -(roundQuotient n.natAbs 1 : Int) else roundQuotient n.natAbs 1

theorem value_ofInt (n : Int) : (ofInt n).value = nearest n * one := by
  rw [value, ofInt, nearest]
  by_cases hn : n < 0
  · simp only [hn, decide_true, if_true, Int.natCast_mul, Int.neg_mul]
  · simp only [hn, decide_false, Bool.false_eq_true, if_false, Int.natCast_mul]

theorem compare_ofInt (a b : Int) :
    (ofInt a).compare (ofInt b) = Ord.compare (nearest a) (nearest b) := by
  have hone : (0 : Int) < one := Int.natCast_pos.mpr (twoPow_pos 1074)
  rw [compare, value_ofInt, value_ofInt]
  rcases Int.lt_trichotomy (nearest a) (nearest b) with h | h | h
  · rw [Int.compare_eq_lt.mpr h, Int.compare_eq_lt]
    exact Int.mul_lt_mul_of_pos_right h hone
  · rw [Int.compare_eq_eq.mpr h, Int.compare_eq_eq, h]
  · rw [Int.compare_eq_gt.mpr h, Int.compare_eq_gt]
    exact Int.mul_lt_mul_of_pos_right h hone

section Integers
variable {a b : Int}

theorem nearest_mono (h : a ≤ b) : nearest a ≤ nearest b := by
  rw [nearest, nearest]
  split <;> split
  · have := roundQuotient_mono (by omega : b.natAbs ≤ a.natAbs)
    omega
  · omega
  · omega
  · have := roundQuotient_mono (by omega : a.natAbs ≤ b.natAbs)
    omega

theorem nearest_eq_self (h : a.natAbs ≤ twoPow 53) : nearest a = a := by
  rw [nearest, roundQuotient_eq_self h]
  split <;> omega

/-- Integers that are further apart than a unit are not merged. -/
theorem nearest_ne {u : Nat} (ha : unit a.natAbs ≤ u) (hb : unit b.natAbs ≤ u)
    (h : u < (a - b).natAbs) : nearest a ≠ nearest b := by
  have hneara := roundQuotient_near a.natAbs
  have hnearb := roundQuotient_near b.natAbs
  rw [nearest, nearest]
  split <;> split <;> omega

/-- The nearest doubles stand as the integers do unless they merge different ones. -/
theorem compare_nearest_iff : Ord.compare (nearest a) (nearest b) = Ord.compare a b ↔
    a = b ∨ nearest a ≠ nearest b := by
  rcases Int.lt_trichotomy a b with h | rfl | h
  · have hle := nearest_mono (Int.le_of_lt h)
    rw [Int.compare_eq_lt.mpr h, Int.compare_eq_lt]
    omega
  · simp
  · have hle := nearest_mono (Int.le_of_lt h)
    rw [Int.compare_eq_gt.mpr h, Int.compare_eq_gt]
    omega

end Integers
end RowSearch.Double
