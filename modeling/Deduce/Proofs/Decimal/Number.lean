import Deduce.Decimal.Basic
import Mathlib.Algebra.Order.Field.Power
import Mathlib.Order.Compare
import Mathlib.Tactic.Linarith
import Mathlib.Tactic.Positivity
import Mathlib.Tactic.Ring

/-!
# The exact number of a decimal

The order of two decimals is the order of the rational numbers that they denote. Their leading places
decide it unless they are equal, and then both coefficients are brought to the smaller exponent.
-/

namespace Deduce.Decimal

/-- `c · 10 ^ e` as a rational number. -/
def magnitude (c : Nat) (e : Int) : ℚ := c * 10 ^ e

/-- The number that a finite decimal denotes; what is no finite decimal denotes zero. -/
def number : Decimal → ℚ
  | finite negative c e => if negative then -magnitude c e else magnitude c e
  | _ => 0

@[simp] theorem magnitude_zero (e : Int) : magnitude 0 e = 0 := by simp [magnitude]

theorem magnitude_nonneg (c : Nat) (e : Int) : 0 ≤ magnitude c e := by
  unfold magnitude
  positivity

theorem magnitude_pos {c : Nat} (h : c ≠ 0) (e : Int) : 0 < magnitude c e := by
  have positive : (0 : ℚ) < c := by exact_mod_cast Nat.pos_of_ne_zero h
  unfold magnitude
  positivity

theorem ten_pow_adjusted_le {c : Nat} (h : c ≠ 0) (e : Int) :
    (10 : ℚ) ^ adjusted c e ≤ magnitude c e := by
  have leading : 10 ^ (width c - 1) ≤ c := by
    by_cases single : width c - 1 = 0
    · simpa [single] using Nat.one_le_iff_ne_zero.mpr h
    · rw [← not_lt, ← width_le_iff (Nat.pos_of_ne_zero single)]
      omega
  have place : adjusted c e = (width c - 1 : Nat) + e := by
    have := width_pos c
    simp only [adjusted]
    omega
  rw [place, zpow_add₀ (by norm_num), zpow_natCast]
  apply mul_le_mul_of_nonneg_right _ (by positivity)
  exact_mod_cast leading

theorem magnitude_lt_ten_pow (c : Nat) (e : Int) : magnitude c e < 10 ^ (adjusted c e + 1) := by
  have place : adjusted c e + 1 = (width c : Nat) + e := by
    simp only [adjusted]
    omega
  rw [place, zpow_add₀ (by norm_num), zpow_natCast]
  apply mul_lt_mul_of_pos_right _ (by positivity)
  exact_mod_cast lt_ten_pow_width c

theorem magnitude_lt_of_adjusted_lt {c d : Nat} {e f : Int} (hd : d ≠ 0)
    (h : adjusted c e < adjusted d f) : magnitude c e < magnitude d f :=
  calc magnitude c e < 10 ^ (adjusted c e + 1) := magnitude_lt_ten_pow c e
    _ ≤ 10 ^ adjusted d f := zpow_le_zpow_right₀ (by norm_num) (by omega)
    _ ≤ magnitude d f := ten_pow_adjusted_le hd f

/-- A coefficient brought to the smaller of two exponents. -/
theorem magnitude_eq_scaled (c : Nat) (e f : Int) :
    magnitude c e = ((c * 10 ^ (e - f).toNat : Nat) : ℚ) * 10 ^ min e f := by
  have exponents : e = ((e - f).toNat : Int) + min e f := by omega
  unfold magnitude
  conv_lhs => rw [exponents]
  rw [zpow_add₀ (by norm_num), zpow_natCast]
  push_cast
  ring

theorem compareMagnitude_eq_compare (c : Nat) (e : Int) (d : Nat) (f : Int) :
    compareMagnitude c e d f = compare (magnitude c e) (magnitude d f) := by
  unfold compareMagnitude
  split
  · rename_i zero
    symm
    rcases zero with rfl | rfl
    · rcases Nat.eq_zero_or_pos d with rfl | positive
      · simp
      · rw [compare_lt_iff_lt.mpr positive, compare_lt_iff_lt, magnitude_zero]
        exact magnitude_pos positive.ne' f
    · rcases Nat.eq_zero_or_pos c with rfl | positive
      · simp
      · rw [compare_gt_iff_gt.mpr positive, compare_gt_iff_gt, magnitude_zero]
        exact magnitude_pos positive.ne' e
  · rename_i nonzero
    obtain ⟨hc, hd⟩ := not_or.mp nonzero
    rcases lt_trichotomy (adjusted c e) (adjusted d f) with lower | equal | higher
    · rw [compare_lt_iff_lt.mpr lower]
      exact (compare_lt_iff_lt.mpr (magnitude_lt_of_adjusted_lt hd lower)).symm
    · rw [compare_eq_iff_eq.mpr equal, magnitude_eq_scaled c e f, magnitude_eq_scaled d f e,
        min_comm f e, ← cmp_eq_compare, ← cmp_eq_compare]
      have scale : (0 : ℚ) < 10 ^ min e f := by positivity
      exact ((Nat.strictMono_cast.mul_const scale).cmp_map_eq _ _).symm
    · rw [compare_gt_iff_gt.mpr higher]
      exact (compare_gt_iff_gt.mpr (magnitude_lt_of_adjusted_lt hc higher)).symm

theorem number_of_isBelowZero {s : Bool} {c : Nat} (h : isBelowZero s c = true) (e : Int) :
    number (finite s c e) = -magnitude c e ∧ 0 < magnitude c e := by
  simp only [isBelowZero, Bool.and_eq_true, bne_iff_ne] at h
  exact ⟨by simp [number, h.1], magnitude_pos h.2 e⟩

theorem number_of_not_isBelowZero {s : Bool} {c : Nat} (h : isBelowZero s c = false) (e : Int) :
    number (finite s c e) = magnitude c e := by
  cases s with
  | false => rfl
  | true =>
    have zero : c = 0 := by simpa [isBelowZero] using h
    simp [number, zero]

theorem order?_eq_compare {a b : Decimal} (ha : a.isFinite = true) (hb : b.isFinite = true) :
    order? a b = some (compare a.number b.number) := by
  cases a with
  | infinite | nan => cases ha
  | finite s c e =>
    cases b with
    | infinite | nan => cases hb
    | finite t d f =>
      simp only [order?, Option.some.injEq]
      cases hs : isBelowZero s c <;> cases ht : isBelowZero t d
      · rw [number_of_not_isBelowZero hs, number_of_not_isBelowZero ht]
        exact compareMagnitude_eq_compare c e d f
      · obtain ⟨value, positive⟩ := number_of_isBelowZero ht f
        have left := magnitude_nonneg c e
        rw [number_of_not_isBelowZero hs, value]
        exact (compare_gt_iff_gt.mpr (by linarith)).symm
      · obtain ⟨value, positive⟩ := number_of_isBelowZero hs e
        have right := magnitude_nonneg d f
        rw [number_of_not_isBelowZero ht, value]
        exact (compare_lt_iff_lt.mpr (by linarith)).symm
      · rw [(number_of_isBelowZero hs e).1, (number_of_isBelowZero ht f).1]
        have reversed : StrictAnti (Neg.neg : ℚ → ℚ) := fun _ _ => neg_lt_neg
        rw [← cmp_eq_compare, reversed.cmp_map_eq, cmp_eq_compare]
        exact compareMagnitude_eq_compare d f c e

end Deduce.Decimal
