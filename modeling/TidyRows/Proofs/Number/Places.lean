import Mathlib
import TidyRows.Proofs.Number.Rounding
namespace TidyRows
open Shortest

section
variable {n d n' d' k r : Nat}

theorem roundDiv_mul (tie : Tie) (n d : Nat) (positive : 0 < k) : roundDiv tie (n * k) (d * k) = roundDiv tie n d := by
  have scaled (a : Nat) : 2 * (a * k) = 2 * a * k := (Nat.mul_assoc ..).symm
  unfold roundDiv
  rw [Nat.mul_div_mul_right _ _ positive, Nat.mul_mod_mul_right]
  simp only [scaled, Nat.mul_lt_mul_right positive]

theorem rankOfRatio_mul (n d : Nat) (positive : 0 < k) : rankOfRatio (n * k) (d * k) = rankOfRatio n d := by
  unfold rankOfRatio
  rw [Nat.mul_div_mul_right _ _ positive]
  dsimp only
  rw [Nat.shiftLeft_eq, Nat.shiftLeft_eq, Nat.mul_right_comm, roundDiv_mul _ _ _ positive]

theorem rankOfRatio_same (same : n * d' = n' * d) (positive : 0 < d) (positive' : 0 < d') :
    rankOfRatio n d = rankOfRatio n' d' := by
  rw [← rankOfRatio_mul n d positive', same, Nat.mul_comm d d', rankOfRatio_mul n' d' positive]

theorem holds_of_rank (positive : 0 < d) (rank : rankOfRatio n d = r) (nonzero : 0 < r) :
    (Interval.ofRank r).holds (2 * n) d = true := by
  obtain ⟨k, rfl⟩ : ∃ k, r = k + 1 := ⟨r - 1, by omega⟩
  obtain ⟨low, lowest⟩ := rankOfRatio_low positive rank
  obtain ⟨high, highest⟩ := rankOfRatio_high positive rank
  rw [interval_after]
  unfold Interval.holds
  dsimp only
  split
  · simp only [Bool.and_eq_true, decide_eq_true_eq]
    exact ⟨low, high⟩
  · rename_i odd
    have odd : (k + 1) % 2 ≠ 0 := by simpa using odd
    simp only [Bool.and_eq_true, decide_eq_true_eq]
    exact ⟨Nat.lt_of_le_of_ne low fun tie => odd (lowest tie.symm), Nat.lt_of_le_of_ne high fun tie => odd (highest tie)⟩

end

namespace Double
variable {negative : Bool} {digits digits' places : Nat} {e e' : Int} {x y : Finite}

theorem ofDecimal_same (same : (digits : ℚ) * 10 ^ e = digits' * 10 ^ e') :
    ofDecimal negative digits e = ofDecimal negative digits' e' := by
  have some := tenPower_positive e
  have some' := tenPower_positive e'
  have worth : ((digits * (tenPower e).1 : Nat) : ℚ) / (tenPower e).2 = (digits' * (tenPower e').1 : Nat) / (tenPower e').2 := by
    rw [tenPower_worth, tenPower_worth, same]
  rw [div_eq_div_iff (Nat.cast_ne_zero.mpr (Nat.ne_of_gt some)) (Nat.cast_ne_zero.mpr (Nat.ne_of_gt some'))] at worth
  have cross : digits * (tenPower e).1 * (tenPower e').2 = digits' * (tenPower e').1 * (tenPower e).2 := by exact_mod_cast worth
  rw [ofDecimal_eq, ofDecimal_eq]
  unfold ofRatio ofUnits
  rw [rankOfRatio_same (by rw [Nat.mul_right_comm, cross, Nat.mul_right_comm]) some some']

theorem ofDecimal_holds (found : ofDecimal negative digits e = .finite x) (nonzero : 0 < x.rank.val) :
    (Interval.ofRank x.rank).holds (digits * (gridStep e).1) (gridStep e).2 = true := by
  rw [ofDecimal_eq] at found
  have holds := holds_of_rank (tenPower_positive e) (ofRatio_rank found).2 nonzero
  rw [show digits * (gridStep e).1 = 2 * (digits * (tenPower e).1 * unitsPerOne) by unfold gridStep; ring]
  exact holds

theorem movePoint_decimal {shift : Int} (same : x.shortest * 10 ^ shift = digits * 10 ^ e) :
    movePoint (.finite x) shift = .ofDecimal x.negative digits e := by
  obtain ⟨ds, f, worth, moved⟩ := movePoint_finite x shift
  rw [moved]
  refine ofDecimal_same ?_
  rw [← same, worth, zpow_add₀ (by norm_num), mul_assoc]

end Double

namespace Finite
variable {x : Finite} {k : Nat}

theorem shortest_scaled {n : Nat} {e : Int} (scaled : shortestDecimal .up x.rank = .ofScaled n e) (some : n ≠ 0) :
    x.shortest = n * 10 ^ e := by
  unfold shortest numeral
  rw [scaled]
  exact (layout_tells plainNumeral_layout some e).worth

theorem shortest_zero (zero : x.rank.val = 0) : x.shortest = 0 := by
  unfold shortest numeral
  have none : Decimal.zero.plainNumeral.digits = 0 := by decide
  rw [zero, show shortestDecimal .up 0 = .zero from rfl, none, Nat.cast_zero, zero_mul]

-- A number that is read for a decimal of so many places has no more places.
theorem shortest_places (places : Nat) (nonzero : 0 < x.rank.val) (some : k ≠ 0)
    (found : Double.ofDecimal x.negative k (-places) = .finite x) (early : -places < leadingExponent x.rank) :
    ∃ n : Nat, x.shortest * 10 ^ places = n := by
  have holds := Double.ofDecimal_holds found nonzero
  obtain ⟨n, e, scaled, count, coarse⟩ := shortestDecimal_grid .up nonzero x.rank.isLt some holds early
  obtain ⟨more, rest⟩ := Int.eq_ofNat_of_zero_le (by omega : 0 ≤ e + places)
  refine ⟨n * 10 ^ more, ?_⟩
  rw [shortest_scaled scaled count, mul_assoc, ← zpow_natCast, ← zpow_add₀ (by norm_num), rest]
  push_cast
  rw [zpow_natCast]

theorem shortest_whole (whole : x.units % unitsPerOne = 0) : ∃ n : Nat, x.shortest = n := by
  rcases Nat.eq_zero_or_pos x.rank.val with zero | nonzero
  · exact ⟨0, by rw [shortest_zero zero, Nat.cast_zero]⟩
  · obtain ⟨n, e, scaled, some, coarse⟩ := shortestDecimal_whole nonzero whole .up x.rank.isLt
    obtain ⟨more, rfl⟩ := Int.eq_ofNat_of_zero_le coarse
    refine ⟨n * 10 ^ more, ?_⟩
    rw [shortest_scaled scaled some]
    push_cast
    rw [zpow_natCast]

-- A whole number of less than 53 bits is its own shortest decimal: there is no other whole number that is closer to that.
theorem shortest_exact (worth : x.units = k * unitsPerOne) (bits : k < 2 ^ 53) : x.shortest = k := by
  have ones := Double.ones_positive
  have magnitude : x.magnitude = k := by
    unfold Finite.magnitude
    rw [show unitsOfRank x.rank = k * unitsPerOne from worth, Nat.cast_mul, mul_div_cancel_right₀ _ (ne_of_gt ones)]
  obtain ⟨n, shortest⟩ := shortest_whole (x := x) (by rw [worth, Nat.mul_mod_left])
  have less : x.magnitude < (power 53 (by decide)).magnitude := by
    rw [magnitude, power_magnitude]
    exact_mod_cast bits
  have most := shortest_le (rank_lt less)
  rw [power_magnitude, shortest] at most
  obtain ⟨r, known, units⟩ := Double.exists_rank (n := n) (by exact_mod_cast most)
  have near := x.shortest_closest.near ⟨x.negative, r, known⟩
  rw [x.value_signed, value_signed, signed_same, signed_same, shortest] at near
  have own : (unitsOfRank r : ℚ) / unitsPerOne = n := by
    rw [units, Nat.cast_mul, mul_div_cancel_right₀ _ (ne_of_gt ones)]
  dsimp only at near
  rw [own, sub_self, abs_zero, show (unitsOfRank x.rank : ℚ) / unitsPerOne = k from magnitude] at near
  have same : (k : ℚ) - n = 0 := abs_eq_zero.mp (le_antisymm near (abs_nonneg _))
  rw [shortest]
  linarith

end Finite

namespace Double
variable {x w : Finite} {k places : Nat}

theorem roundDiv_whole (tie : Tie) (k : Nat) : roundDiv tie (k * unitsPerOne) unitsPerOne = k := by
  unfold roundDiv
  rw [Nat.mul_mod_left, Nat.mul_div_left k unitsPerOne_positive]
  exact if_pos unitsPerOne_positive

theorem roundAway_kept (whole : x.units = k * unitsPerOne) : roundAway (.finite x) = .finite x := by
  have rank := rankOfRatio_unitsOfRank x.rank Nat.one_pos
  rw [Nat.mul_one, show unitsOfRank x.rank = k * unitsPerOne from whole] at rank
  show ofRatio x.negative (roundDiv .up x.units unitsPerOne) 1 = _
  rw [whole, roundDiv_whole, ofRatio, ofUnits, rank]
  exact dif_pos x.rank.isLt

theorem shortest_read (x : Finite) {digits : Nat} {e : Int} (same : digits * 10 ^ e = x.shortest) :
    ofDecimal x.negative digits e = .finite x := by
  have reads : x.numeral.Reads x := plainNumeral_reads x
  rw [← reads.value]
  exact ofDecimal_same same

-- All steps of rounding are exact for a number whose places fit.
theorem roundPlaces_fixed (few : places ≤ maxPlaces) (grid : x.shortest * 10 ^ places = k) (bits : k < 2 ^ 53) :
    (finite x).roundPlaces places = .finite x := by
  obtain ⟨y, whole, sign, worth⟩ := ofRatio_whole x.negative (Nat.le_of_lt bits)
  have out : movePoint (.finite x) places = .finite y := by
    have same : x.shortest * 10 ^ (places : Int) = k * 10 ^ (0 : Int) := by rw [zpow_natCast, grid, zpow_zero, mul_one]
    rw [movePoint_decimal same, ofDecimal_eq]
    show ofRatio x.negative (k * 1) 1 = _
    rw [Nat.mul_one, whole]
  have kept := roundAway_kept worth
  have back : (k : ℚ) * 10 ^ (-places : Int) = x.shortest := by
    rw [← grid, mul_assoc, ← zpow_natCast, ← zpow_add₀ (by norm_num), add_neg_cancel, zpow_zero, mul_one]
  unfold roundPlaces
  dsimp only
  rw [show min (places : Int) maxPlaces = places by omega, out, kept,
    movePoint_decimal (by rw [Finite.shortest_exact worth bits]), sign]
  exact shortest_read x back

theorem roundPlaces_parts (few : places ≤ maxPlaces) (found : (finite x).roundPlaces places = .finite w) : ∃ y z : Finite,
    movePoint (.finite x) places = .finite y ∧ roundAway (.finite y) = .finite z ∧ movePoint (.finite z) (-places) = .finite w := by
  unfold roundPlaces at found
  dsimp only at found
  rw [show min (places : Int) maxPlaces = places by omega] at found
  rcases movePoint_cases x places with ⟨y, moved⟩ | ⟨negative, moved⟩ <;> rw [moved] at found
  · obtain ⟨z, rounded⟩ := isFinite_iff.mp (roundAway_finite y)
    rw [rounded] at found
    exact ⟨y, z, moved, rounded, found⟩
  · have lost : movePoint (roundAway (.infinite negative)) (-places) = .infinite negative := movePoint_infinite negative _
    rw [lost] at found
    cases found

theorem roundAway_whole (found : roundAway (.finite x) = .finite w) : w.units % unitsPerOne = 0 := by
  rcases Nat.eq_zero_or_pos w.rank.val with zero | nonzero
  · unfold Finite.units
    rw [zero, unitsOfRank_zero, Nat.zero_mod]
  · have rank := (ofRatio_rank (found : ofRatio x.negative (roundDiv .up x.units unitsPerOne) 1 = .finite w)).2
    have holds := holds_of_rank Nat.one_pos rank nonzero
    rw [show ∀ n, 2 * (n * unitsPerOne) = n * (2 * unitsPerOne) from fun n => by ring] at holds
    exact whole_of_holds nonzero holds

theorem log2_share {n : Nat} (least : unitsPerOne ≤ n * 10 ^ 10) : 1040 ≤ Nat.log2 n := by
  obtain ⟨ones, size, power⟩ := unitsPerOne_power
  obtain ⟨bits, rfl⟩ : ∃ bits, ones = bits + 34 := ⟨ones - 34, by omega⟩
  have less : 2 ^ bits ≤ n := by
    refine Nat.le_of_mul_le_mul_right (c := 2 ^ 34) ?_ (Nat.two_pow_pos 34)
    calc 2 ^ bits * 2 ^ 34 = unitsPerOne := by rw [power, pow_add]
      _ ≤ n * 10 ^ 10 := least
      _ ≤ n * 2 ^ 34 := Nat.mul_le_mul_left _ (by decide)
  have log := (Nat.le_log2 (Nat.ne_of_gt (Nat.lt_of_lt_of_le (Nat.two_pow_pos _) less))).mpr less
  omega

-- The smallest share that is kept is read as a little more than it is, so that the search begins with a digit of its own.
theorem leading_of_share (some : k ≠ 0) (found : ofDecimal x.negative k (-10) = .finite x) : -10 < leadingExponent x.rank := by
  have smallest : unitsPerOne ≤ unitsOfRank (rankOfRatio (1 * unitsPerOne) (10 ^ 10)) * 10 ^ 10 := by decide +kernel
  rw [ofDecimal_eq] at found
  have rank : rankOfRatio (k * 1 * unitsPerOne) (10 ^ 10) = x.rank := (ofRatio_rank found).2
  have more : 1 * unitsPerOne ≤ k * 1 * unitsPerOne := Nat.mul_le_mul_right _ (by omega)
  have least : unitsPerOne ≤ unitsOfRank x.rank * 10 ^ 10 := by
    rw [← rank]
    exact smallest.trans (Nat.mul_le_mul_right _ (unitsOfRank_strictMono.monotone (rankOfRatio_mono more (by decide))))
  have reached : (10 : ℚ) ^ (-10 : Int) * unitsPerOne ≤ unitsOfRank x.rank := by
    have least : (unitsPerOne : ℚ) ≤ unitsOfRank x.rank * 10 ^ 10 := by exact_mod_cast least
    rw [zpow_neg, inv_mul_le_iff₀ (by norm_num), mul_comm]
    exact_mod_cast least
  exact lt_leadingExponent (reaches_iff.mpr reached) (by have := log2_share least; omega)

-- What is rounded to ten places has no more than ten.
theorem roundPlaces_share (found : (finite x).roundPlaces 10 = .finite w) : ∃ k : Nat, w.shortest * 10 ^ 10 = k := by
  obtain ⟨y, z, _, rounded, back⟩ := roundPlaces_parts (by decide) found
  obtain ⟨k, whole⟩ := Finite.shortest_whole (roundAway_whole rounded)
  have same : z.shortest * 10 ^ (-10 : Int) = k * 10 ^ (-10 : Int) := by rw [whole]
  rw [show -((10 : Nat) : Int) = -10 from rfl, movePoint_decimal same] at back
  rcases Nat.eq_zero_or_pos w.rank.val with zero | nonzero
  · exact ⟨0, by rw [Finite.shortest_zero zero, zero_mul, Nat.cast_zero]⟩
  · have sign := (ofDecimal_closest back).1
    rw [← sign] at back
    have some : k ≠ 0 := by
      rintro rfl
      rw [ofDecimal_eq] at back
      have rank := (ofRatio_rank back).2
      rw [Nat.zero_mul, Nat.zero_mul, rankOfRatio_small (Nat.zero_le _) (tenPower_positive _)] at rank
      exact absurd rank (Nat.ne_of_lt nonzero)
    exact Finite.shortest_places 10 nonzero some back (leading_of_share some back)

-- Nothing is read as more than twice its worth, nor as less than half of it unless it is too small for a number.
theorem ofRatio_le {negative : Bool} {n d : Nat} (positive : 0 < d) (found : ofRatio negative n d = .finite x) :
    x.magnitude ≤ 2 * (n / d) := by
  obtain ⟨sign, closest⟩ := ofRatio_closest positive found
  have worth : (0 : ℚ) ≤ n / d := by positivity
  have near := closest.near ⟨negative, ⟨0, by decide⟩⟩
  rw [x.value_signed, Finite.value_signed, sign, signed_same, signed_same, unitsOfRank_zero, Nat.cast_zero, zero_div, zero_sub,
    abs_neg, abs_of_nonneg worth] at near
  have gap : x.magnitude - n / d ≤ n / d := (le_abs_self _).trans near
  linarith

theorem ofDecimal_le {negative : Bool} {digits : Nat} {e : Int} (found : ofDecimal negative digits e = .finite x) :
    x.magnitude ≤ 2 * (digits * 10 ^ e) := by
  rw [ofDecimal_eq] at found
  rw [← tenPower_worth]
  exact ofRatio_le (tenPower_positive e) found

theorem unitsOfRank_double {r : Nat} (nonzero : 0 < r) : unitsOfRank (r + 1) ≤ 2 * unitsOfRank r := by
  obtain ⟨s, m, rfl, most, least⟩ := rank_parts r
  have some : 1 ≤ m := by
    rcases least with rfl | more
    · rwa [Nat.zero_mul, Nat.zero_add] at nonzero
    · exact Nat.le_trans (by decide) more
  rw [unitsOfRank_succ most least, unitsOfRank_parts (Nat.le_of_lt most) least, ← Nat.mul_assoc]
  exact Nat.mul_le_mul_right _ (by omega)

theorem shortest_le_double (x : Finite) : x.shortest ≤ 2 * x.magnitude := by
  rcases Nat.eq_zero_or_pos x.rank.val with zero | nonzero
  · rw [Finite.shortest_zero zero]
    exact mul_nonneg (by norm_num) (div_nonneg (Nat.cast_nonneg _) (le_of_lt ones_positive))
  · have reads : x.numeral.Reads x := plainNumeral_reads x
    have found := reads.value
    rw [ofDecimal_eq] at found
    have positive := tenPower_positive x.numeral.power
    obtain ⟨high, _⟩ := rankOfRatio_high positive (ofRatio_rank found).2
    have next := Nat.mul_le_mul_right (tenPower x.numeral.power).2 (unitsOfRank_double nonzero)
    unfold Finite.shortest
    rw [← tenPower_worth]
    generalize tenPower x.numeral.power = power at positive high next ⊢
    have twice : x.numeral.digits * power.1 * unitsPerOne ≤ 2 * unitsOfRank x.rank * power.2 := by
      have positive := Nat.zero_le (unitsOfRank x.rank * power.2)
      rw [Nat.add_mul] at high
      linarith
    have ones := ones_positive
    unfold Finite.magnitude
    rw [← mul_div_assoc, div_le_div_iff₀ (Nat.cast_pos.mpr positive) ones]
    exact_mod_cast twice

theorem movePoint_le {y : Finite} {shift : Int} (moved : movePoint (.finite x) shift = .finite y) :
    y.magnitude ≤ 4 * x.magnitude * 10 ^ shift := by
  obtain ⟨digits, e, worth, read⟩ := movePoint_finite x shift
  rw [read] at moved
  have place : (0 : ℚ) ≤ 10 ^ shift := by positivity
  calc y.magnitude ≤ 2 * (digits * 10 ^ (e + shift)) := ofDecimal_le moved
    _ = 2 * x.shortest * 10 ^ shift := by rw [zpow_add₀ (by norm_num), worth]; ring
    _ ≤ 2 * (2 * x.magnitude) * 10 ^ shift :=
      mul_le_mul_of_nonneg_right (mul_le_mul_of_nonneg_left (shortest_le_double x) (by norm_num)) place
    _ = 4 * x.magnitude * 10 ^ shift := by ring

theorem roundAway_le {y : Finite} (rounded : roundAway (.finite x) = .finite y) : y.magnitude ≤ 2 * (x.magnitude + 1) := by
  have most := (roundDiv_near .up x.units unitsPerOne_positive).2
  have ones := ones_positive
  have bound : (roundDiv .up x.units unitsPerOne : ℚ) ≤ x.magnitude + 1 := by
    unfold Finite.magnitude
    rw [div_add_one (ne_of_gt ones), le_div_iff₀ ones]
    have : (2 * (roundDiv .up x.units unitsPerOne * unitsPerOne) : ℚ) ≤ 2 * x.units + unitsPerOne := by exact_mod_cast most
    unfold Finite.units at *
    linarith
  have read := ofRatio_le Nat.one_pos rounded
  rw [Nat.cast_one, div_one] at read
  linarith

theorem roundPlaces_le (few : places ≤ maxPlaces) (found : (finite x).roundPlaces places = .finite w) :
    w.magnitude ≤ 32 * x.magnitude + 8 / 10 ^ places := by
  obtain ⟨y, z, moved, rounded, back⟩ := roundPlaces_parts few found
  have first := movePoint_le moved
  have second := roundAway_le rounded
  have third := movePoint_le back
  rw [zpow_natCast] at first
  rw [zpow_neg, zpow_natCast, ← div_eq_mul_inv] at third
  have place : (0 : ℚ) < 10 ^ places := by positivity
  calc w.magnitude ≤ 4 * z.magnitude / 10 ^ places := third
    _ ≤ 4 * (2 * (4 * x.magnitude * 10 ^ places + 1)) / 10 ^ places := by gcongr; linarith
    _ = 32 * x.magnitude + 8 / 10 ^ places := by field_simp; ring

end Double
end TidyRows
