import TidyRows.Proofs.Number.Shortest
namespace TidyRows

namespace Shortest

theorem interval_low {r : Nat} (nonzero : 0 < r) : 0 < (Interval.ofRank r).low :=
  Nat.lt_of_lt_of_le (unitsOfRank_positive nonzero) (Nat.le_add_left _ _)

theorem interval_high {r : Nat} (known : r < rankCount) : ∃ s, s ≤ 2046 ∧ (Interval.ofRank r).high ≤ 2 ^ (54 + s) := by
  obtain ⟨s, m, rfl, most, least⟩ := rank_parts r
  have size : s ≤ 2046 := by unfold rankCount binade at *; omega
  refine ⟨s, size, ?_⟩
  show unitsOfRank (s * binade + m) + unitsOfRank (s * binade + m + 1) ≤ _
  rw [unitsOfRank_parts (Nat.le_of_lt most) least, unitsOfRank_succ most least, show 54 + s = 52 + 2 + s from rfl,
    binade_power 2 s]
  have full : (m + 1) * 2 ^ s ≤ 2 * binade * 2 ^ s := Nat.mul_le_mul_right _ most
  have less : m * 2 ^ s ≤ (m + 1) * 2 ^ s := Nat.mul_le_mul_right _ (Nat.le_succ m)
  linarith

end Shortest

open Shortest

theorem one_shifted (k : Nat) : 1 <<< k = 2 ^ k := Nat.one_shiftLeft k

theorem unitsPerOne_power : ∃ k, k = 1074 ∧ unitsPerOne = 2 ^ k := ⟨_, rfl, one_shifted _⟩

theorem eight_le_ten (e : Nat) : 2 ^ (3 * e) ≤ 10 ^ e := by
  rw [pow_mul]
  exact Nat.pow_le_pow_left (by norm_num) e

-- A number written without a negative exponent is not out of range.
theorem whole_in_range {digits e r : Nat} (known : r < rankCount) (some : digits ≠ 0)
    (high : 2 * (digits * 10 ^ e * unitsPerOne) ≤ (Interval.ofRank r).high) : Nat.log2 digits + 3 * e ≤ 1100 := by
  obtain ⟨s, size, most⟩ := interval_high known
  obtain ⟨k, unit, power⟩ := unitsPerOne_power
  rw [power] at high
  have bound : 2 ^ (Nat.log2 digits + 3 * e + (k + 1)) ≤ 2 ^ (54 + s) := by
    calc 2 ^ (Nat.log2 digits + 3 * e + (k + 1)) = 2 ^ Nat.log2 digits * 2 ^ (3 * e) * 2 ^ (k + 1) := by
          rw [pow_add, pow_add]
      _ ≤ digits * 10 ^ e * 2 ^ (k + 1) :=
          Nat.mul_le_mul_right _ (Nat.mul_le_mul (Nat.log2_self_le some) (eight_le_ten e))
      _ = 2 * (digits * 10 ^ e * 2 ^ k) := by ring
      _ ≤ 2 ^ (54 + s) := Nat.le_trans high most
  have := (Nat.pow_le_pow_iff_right (by decide : 1 < 2)).mp bound
  omega

theorem fraction_in_range {digits e r : Nat} (nonzero : 0 < r)
    (low : (Interval.ofRank r).low * 10 ^ e ≤ 2 * (digits * unitsPerOne)) : 3 * e ≤ Nat.log2 digits + 1100 := by
  obtain ⟨k, unit, power⟩ := unitsPerOne_power
  rw [power] at low
  have bound : 2 ^ (3 * e) < 2 ^ (Nat.log2 digits + 1 + (k + 1)) := by
    calc 2 ^ (3 * e) ≤ 1 * 10 ^ e := by rw [one_mul]; exact eight_le_ten e
      _ ≤ (Interval.ofRank r).low * 10 ^ e := Nat.mul_le_mul_right _ (interval_low nonzero)
      _ ≤ 2 * (digits * 2 ^ k) := low
      _ = digits * 2 ^ (k + 1) := by ring
      _ < 2 ^ (Nat.log2 digits + 1) * 2 ^ (k + 1) :=
          Nat.mul_lt_mul_of_pos_right Nat.lt_log2_self (Nat.two_pow_pos _)
      _ = 2 ^ (Nat.log2 digits + 1 + (k + 1)) := (pow_add _ _ _).symm
  have := (Nat.pow_lt_pow_iff_right (by decide : 1 < 2)).mp bound
  omega

-- A decimal in half units is within an interval as the quotient is that it is worth.
theorem holds_quotient {i : Interval} {digits n d : Nat} {e : Int} (positive : 0 < d)
    (worth : (n : ℚ) = digits * 10 ^ e * d) :
    i.holds (2 * (n * unitsPerOne)) d = i.holds (digits * (gridStep e).1) (gridStep e).2 := by
  refine holds_same ?_ positive (gridStep_positive e)
  have : ((2 * (n * unitsPerOne) * (gridStep e).2 : Nat) : ℚ) = (digits * (gridStep e).1 * d : Nat) := by
    push_cast
    rw [gridStep_cast]
    linear_combination (2 * unitsPerOne * (gridStep e).2 : ℚ) * worth
  exact_mod_cast this

theorem ofDecimal_of_holds (negative : Bool) {digits r : Nat} {e : Int} (nonzero : 0 < r) (known : r < rankCount)
    (holds : (Interval.ofRank r).holds (digits * (gridStep e).1) (gridStep e).2 = true) :
    Double.ofDecimal negative digits e = .finite ⟨negative, r, known⟩ := by
  have some : digits ≠ 0 := by
    rintro rfl
    have := (holds_bounds holds).1
    rw [Nat.zero_mul] at this
    exact absurd (Nat.mul_pos (interval_low nonzero) (gridStep_positive e)) (Nat.not_lt_of_le this)
  have read {n d : Nat} (within : (Interval.ofRank r).holds (2 * (n * unitsPerOne)) d = true) (positive : 0 < d) :
      Double.ofRatio negative n d = .finite ⟨negative, r, known⟩ := by
    unfold Double.ofRatio Double.ofUnits Double.ofRank
    rw [rankOfRatio_of_holds within positive nonzero, dif_pos known]
  unfold Double.ofDecimal
  rw [if_neg some]
  cases e with
  | ofNat e =>
    have within : (Interval.ofRank r).holds (2 * (digits * 10 ^ e * unitsPerOne)) 1 = true := by
      rw [← holds]
      exact holds_quotient Nat.one_pos (by simp)
    have high := (holds_bounds within).2.1
    rw [Nat.mul_one] at high
    dsimp only
    rw [if_neg (Nat.not_lt_of_le (whole_in_range known some high))]
    exact read within Nat.one_pos
  | negSucc k =>
    have positive : 0 < 10 ^ (k + 1) := Nat.pow_pos (by decide)
    have within : (Interval.ofRank r).holds (2 * (digits * unitsPerOne)) (10 ^ (k + 1)) = true := by
      rw [← holds]
      refine holds_quotient positive ?_
      have : (10 : ℚ) ^ (k + 1) ≠ 0 := by positivity
      simp [zpow_negSucc, this]
    have low := (holds_bounds within).1
    dsimp only
    rw [if_neg (Nat.not_lt_of_le (fraction_in_range nonzero low))]
    exact read within positive

end TidyRows
