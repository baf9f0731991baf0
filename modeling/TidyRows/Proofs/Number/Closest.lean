import Mathlib
import TidyRows.Proofs.Number.Order
namespace TidyRows
open Shortest

namespace Finite

def value (x : Finite) : ℚ := x.signedUnits / unitsPerOne

-- No number is closer, and one that is as close and another one leaves the even rank to this one.
structure Closest (x : Finite) (q : ℚ) : Prop where
  near : ∀ y : Finite, |x.value - q| ≤ |y.value - q|
  even : ∀ y : Finite, |y.value - q| = |x.value - q| → y.value = x.value ∨ x.rank.val % 2 = 0

end Finite

section
variable {n d r : Nat}

theorem rankOfRatio_small (small : 2 * n ≤ d) (positive : 0 < d) : rankOfRatio n d = 0 := by
  have none : n / d = 0 := Nat.div_eq_of_lt (by omega)
  unfold rankOfRatio
  simp only [none, Nat.log2_zero, Nat.zero_sub, Nat.zero_mul, Nat.shiftLeft_zero, Nat.zero_add]
  exact roundDiv_toEven (by omega) (by omega) (by omega) positive

theorem unitsOfRank_zero : unitsOfRank 0 = 0 := by decide

theorem unitsOfRank_one : unitsOfRank 1 = 1 := by decide

theorem interval_after (r : Nat) : Interval.ofRank (r + 1) =
    ⟨unitsOfRank r + unitsOfRank (r + 1), unitsOfRank (r + 1) + unitsOfRank (r + 2), (r + 1) % 2 == 0⟩ := rfl

theorem unitsOfRank_next (r : Nat) (positive : 0 < d) : unitsOfRank r * d < unitsOfRank (r + 1) * d :=
  Nat.mul_lt_mul_of_pos_right (unitsOfRank_strictMono (Nat.lt_succ_self r)) positive

-- An end of an interval belongs to it when its rank is even.
theorem holds_after (even : (r + 1) % 2 = 0) (low : (unitsOfRank r + unitsOfRank (r + 1)) * d ≤ n)
    (high : n ≤ (unitsOfRank (r + 1) + unitsOfRank (r + 2)) * d) : (Interval.ofRank (r + 1)).holds n d = true := by
  rw [interval_after, even]
  unfold Interval.holds
  simp only [beq_self_eq_true, if_true, Bool.and_eq_true, decide_eq_true_eq]
  exact ⟨low, high⟩

-- What is rounded to a rank is not beyond the middle between it and the next one.
theorem rankOfRatio_high (positive : 0 < d) (rank : rankOfRatio n d = r) :
    2 * n ≤ (unitsOfRank r + unitsOfRank (r + 1)) * d ∧
      (2 * n = (unitsOfRank r + unitsOfRank (r + 1)) * d → r % 2 = 0) := by
  have below : n < unitsOfRank (r + 1) * d := by
    by_contra reached
    have more := rankOfRatio_mono (Nat.le_of_not_lt reached) positive
    rw [rankOfRatio_unitsOfRank _ positive, rank] at more
    exact absurd more (Nat.not_succ_le_self r)
  have upper : 2 * n < (unitsOfRank (r + 1) + unitsOfRank (r + 2)) * d := by
    have after : unitsOfRank (r + 1) * d < unitsOfRank (r + 2) * d := unitsOfRank_next (r + 1) positive
    rw [Nat.add_mul]
    omega
  have next : (Interval.ofRank (r + 1)).holds (2 * n) d ≠ true := by
    intro holds
    have after := rankOfRatio_of_holds holds positive (Nat.succ_pos r)
    omega
  constructor
  · by_contra beyond
    exact next (holds_of_strict (Nat.lt_of_not_le beyond) upper)
  · intro middle
    by_contra odd
    exact next (holds_after (by omega) (Nat.le_of_eq middle.symm) (Nat.le_of_lt upper))

theorem rankOfRatio_low (positive : 0 < d) (rank : rankOfRatio n d = r + 1) :
    (unitsOfRank r + unitsOfRank (r + 1)) * d ≤ 2 * n ∧
      (2 * n = (unitsOfRank r + unitsOfRank (r + 1)) * d → (r + 1) % 2 = 0) := by
  have above : unitsOfRank r * d < n := by
    by_contra reached
    have less := rankOfRatio_mono (Nat.le_of_not_lt reached) positive
    rw [rankOfRatio_unitsOfRank _ positive, rank] at less
    exact absurd less (Nat.not_succ_le_self r)
  -- the rank before takes all that is nearer to it, and zero has no interval
  have previous (nearer : 2 * n < (unitsOfRank r + unitsOfRank (r + 1)) * d ∨
      2 * n = (unitsOfRank r + unitsOfRank (r + 1)) * d ∧ r % 2 = 0) : False := by
    have before : rankOfRatio n d = r := by
      cases r with
      | zero =>
        rw [unitsOfRank_zero, Nat.zero_add, unitsOfRank_one, Nat.one_mul] at nearer
        exact rankOfRatio_small (by omega) positive
      | succ k =>
        have lower : (unitsOfRank k + unitsOfRank (k + 1)) * d < 2 * n := by
          have := unitsOfRank_next k positive
          rw [Nat.add_mul]
          omega
        refine rankOfRatio_of_holds ?_ positive (Nat.succ_pos k)
        rcases nearer with inside | ⟨middle, even⟩
        · exact holds_of_strict lower inside
        · exact holds_after even (Nat.le_of_lt lower) (Nat.le_of_eq middle)
    omega
  constructor
  · by_contra short
    exact previous (.inl (Nat.lt_of_not_le short))
  · intro middle
    by_contra odd
    exact previous (.inr ⟨middle, by omega⟩)

-- Beyond the middle to the next of two values everything is farther from a quotient before it.
theorem closest_above {a b c q : ℚ} (less : a < b) (more : b ≤ c) (half : 2 * q ≤ a + b) :
    |a - q| ≤ |c - q| ∧ (|c - q| = |a - q| → 2 * q = a + b) := by
  have right : |c - q| = c - q := abs_of_nonneg (by linarith)
  rw [right]
  rcases abs_cases (a - q) with ⟨left, _⟩ | ⟨left, _⟩ <;> rw [left]
  · exact ⟨by linarith, fun same => by linarith⟩
  · exact ⟨by linarith, fun same => by linarith⟩

theorem closest_below {a b c q : ℚ} (less : b < a) (more : c ≤ b) (half : a + b ≤ 2 * q) :
    |a - q| ≤ |c - q| ∧ (|c - q| = |a - q| → 2 * q = a + b) := by
  have mirrored := closest_above (a := -a) (b := -b) (c := -c) (q := -q) (by linarith) (by linarith) (by linarith)
  rw [neg_sub_neg, neg_sub_neg, abs_sub_comm q a, abs_sub_comm q c] at mirrored
  exact ⟨mirrored.1, fun same => by linarith [mirrored.2 same]⟩

theorem rankOfRatio_closest (positive : 0 < d) (rank : rankOfRatio n d = r) (k : Nat) :
    |(unitsOfRank r : ℚ) - n / d| ≤ |(unitsOfRank k : ℚ) - n / d| ∧
      (|(unitsOfRank k : ℚ) - n / d| = |(unitsOfRank r : ℚ) - n / d| → k = r ∨ r % 2 = 0) := by
  have some : (0 : ℚ) < d := Nat.cast_pos.mpr positive
  have order {i j : Nat} (less : i < j) : (unitsOfRank i : ℚ) < unitsOfRank j :=
    Nat.cast_lt.mpr (unitsOfRank_strictMono less)
  have middle {i j m : Nat} : ((2 * m : Nat) : ℚ) = ((i + j) * d : Nat) ↔ 2 * ((m : ℚ) / d) = i + j := by
    push_cast
    rw [← mul_div_assoc, div_eq_iff (ne_of_gt some)]
  rcases lt_trichotomy k r with before | rfl | after
  · obtain ⟨s, rfl⟩ : ∃ s, r = s + 1 := ⟨r - 1, by omega⟩
    obtain ⟨low, even⟩ := rankOfRatio_low positive rank
    have most : (unitsOfRank k : ℚ) ≤ unitsOfRank s :=
      Nat.cast_le.mpr (unitsOfRank_strictMono.monotone (Nat.le_of_lt_succ before))
    have half : (unitsOfRank (s + 1) : ℚ) + unitsOfRank s ≤ 2 * (n / d) := by
      rw [← mul_div_assoc, le_div_iff₀ some]
      have : (((unitsOfRank s + unitsOfRank (s + 1)) * d : Nat) : ℚ) ≤ (2 * n : Nat) := Nat.cast_le.mpr low
      push_cast at this
      linarith
    obtain ⟨near, tie⟩ := closest_below (order (Nat.lt_succ_self s)) most half
    refine ⟨near, fun same => .inr (even ?_)⟩
    have equal := tie same
    rw [add_comm] at equal
    exact_mod_cast middle.mpr equal
  · exact ⟨le_refl _, fun _ => .inl rfl⟩
  · obtain ⟨high, even⟩ := rankOfRatio_high positive rank
    have least : (unitsOfRank (r + 1) : ℚ) ≤ unitsOfRank k :=
      Nat.cast_le.mpr (unitsOfRank_strictMono.monotone after)
    have half : 2 * ((n : ℚ) / d) ≤ unitsOfRank r + unitsOfRank (r + 1) := by
      rw [← mul_div_assoc, div_le_iff₀ some]
      exact_mod_cast high
    obtain ⟨near, tie⟩ := closest_above (order (Nat.lt_succ_self r)) least half
    refine ⟨near, fun same => .inr (even ?_)⟩
    exact_mod_cast middle.mpr (tie same)

end

def signed (negative : Bool) (q : ℚ) : ℚ := if negative then -q else q

section
variable {a b : ℚ}

theorem signed_zero (s : Bool) : signed s 0 = 0 := by
  cases s
  · rfl
  · exact neg_zero

theorem signed_same (s : Bool) (a b : ℚ) : |signed s a - signed s b| = |a - b| := by
  cases s
  · rfl
  · show |-a - -b| = |a - b|
    rw [neg_sub_neg, abs_sub_comm]

theorem signed_apart {s t : Bool} (apart : s ≠ t) (a b : ℚ) : |signed s a - signed t b| = |a + b| := by
  cases s <;> cases t
  · exact absurd rfl apart
  · show |a - -b| = |a + b|
    rw [sub_neg_eq_add]
  · show |-a - b| = |a + b|
    rw [← neg_add', abs_neg]
  · exact absurd rfl apart

theorem signed_near (s t : Bool) (first : 0 ≤ a) (second : 0 ≤ b) :
    |a - b| ≤ |signed s a - signed t b| ∧ (|signed s a - signed t b| = |a - b| → s = t ∨ a = 0 ∨ b = 0) := by
  by_cases same : s = t
  · rw [same, signed_same]
    exact ⟨le_refl _, fun _ => .inl rfl⟩
  · rw [signed_apart same, abs_of_nonneg (add_nonneg first second)]
    rcases abs_cases (a - b) with ⟨gap, _⟩ | ⟨gap, _⟩ <;> rw [gap]
    · exact ⟨by linarith, fun equal => .inr (.inr (by linarith))⟩
    · exact ⟨by linarith, fun equal => .inr (.inl (by linarith))⟩

end

namespace Double

theorem ones_positive : (0 : ℚ) < unitsPerOne := Nat.cast_pos.mpr unitsPerOne_positive

end Double

theorem Finite.value_signed (x : Finite) : x.value = signed x.negative (unitsOfRank x.rank / unitsPerOne) := by
  unfold value signedUnits signed units
  split
  · push_cast
    exact neg_div _ _
  · rfl

theorem Finite.value_neg (x : Finite) : x.neg.value = -x.value := by
  rw [value_signed, value_signed]
  unfold neg signed
  cases x.negative <;> simp

theorem Finite.Closest.neg {x : Finite} {q : ℚ} (closest : x.Closest q) : x.neg.Closest (-q) := by
  have mirrored (y : Finite) : |y.value - -q| = |y.neg.value - q| := by
    rw [y.value_neg, ← abs_neg]
    congr 1
    ring
  have twice (y : Finite) : y.neg.neg = y := by
    unfold Finite.neg
    simp
  constructor
  · intro y
    rw [mirrored, mirrored, twice]
    exact closest.near y.neg
  · intro y same
    rw [mirrored, mirrored, twice] at same
    refine (closest.even y.neg same).imp_left fun equal => ?_
    rw [x.value_neg, ← equal, y.value_neg, neg_neg]

namespace Double
variable {n d : Nat} {negative : Bool}

theorem isFinite_iff {a : Double} : a.isFinite = true ↔ ∃ x, a = .finite x := by
  cases a <;> simp [isFinite]

theorem ofRatio_rank {x : Finite} (found : ofRatio negative n d = .finite x) :
    x.negative = negative ∧ rankOfRatio (n * unitsPerOne) d = x.rank := by
  unfold ofRatio ofUnits ofRank at found
  split at found
  · cases found
    exact ⟨rfl, rfl⟩
  · cases found

theorem ofRatio_closest (positive : 0 < d) {x : Finite} (found : ofRatio negative n d = .finite x) :
    x.negative = negative ∧ x.Closest (signed negative (n / d)) := by
  obtain ⟨sign, rank⟩ := ofRatio_rank found
  have ones := ones_positive
  have some : (0 : ℚ) < d := Nat.cast_pos.mpr positive
  have worth : (0 : ℚ) ≤ n / d := div_nonneg (Nat.cast_nonneg n) (le_of_lt some)
  have scaled (k : Nat) : |(unitsOfRank k : ℚ) / unitsPerOne - n / d| =
      |(unitsOfRank k : ℚ) - (n * unitsPerOne : Nat) / d| / unitsPerOne := by
    rw [← abs_of_pos ones, ← abs_div, abs_of_pos ones]
    congr 1
    push_cast
    field_simp
  have size (k : Nat) : (0 : ℚ) ≤ unitsOfRank k / unitsPerOne := div_nonneg (Nat.cast_nonneg _) (le_of_lt ones)
  have here : |x.value - signed negative (n / d)| =
      |(unitsOfRank x.rank : ℚ) - (n * unitsPerOne : Nat) / d| / unitsPerOne := by
    rw [x.value_signed, sign, signed_same, scaled]
  refine ⟨sign, ?_, ?_⟩
  · intro y
    have near := (rankOfRatio_closest positive rank y.rank).1
    rw [here, y.value_signed]
    refine le_trans ?_ (signed_near y.negative negative (size _) worth).1
    rw [scaled]
    exact div_le_div_of_nonneg_right near (le_of_lt ones)
  · intro y same
    obtain ⟨near, tie⟩ := rankOfRatio_closest positive rank y.rank
    obtain ⟨least, signs⟩ := signed_near y.negative negative (size y.rank) worth
    rw [here, y.value_signed] at same
    rw [same, scaled] at least
    have equal := le_antisymm ((div_le_div_iff_of_pos_right ones).mp least) near
    rcases tie equal with own | even
    · rw [own, ← scaled] at same
      rcases (signed_near y.negative negative (size x.rank) worth).2 same with other | none | none
      · left
        rw [y.value_signed, x.value_signed, other, sign, own]
      · left
        rw [y.value_signed, x.value_signed, own, none, signed_zero, signed_zero]
      · right
        rw [div_eq_zero_iff, Nat.cast_eq_zero, Nat.cast_eq_zero] at none
        rw [none.resolve_right (Nat.ne_of_gt positive), Nat.zero_mul, rankOfRatio_small (Nat.zero_le d) positive] at rank
        rw [← rank]
    · exact .inr even

-- Half a step beyond the last number.
def limit : ℚ := 2 ^ 1024 - 2 ^ 970

theorem limit_le : ∃ top : Nat, limit ≤ (2 ^ top : Nat) ∧ top = 1024 := by
  refine ⟨1024, ?_, rfl⟩
  rw [limit, Nat.cast_pow]
  exact sub_le_self _ (by positivity)

theorem power_le_limit {k : Nat} (small : k < 1024) : (2 : ℚ) ^ k ≤ limit := by
  have step {i : Nat} (less : i ≤ 1023) : (2 : ℚ) ^ i ≤ 2 ^ 1023 := pow_le_pow_right₀ one_le_two less
  have top : (2 : ℚ) ^ 1024 = 2 ^ 1023 + 2 ^ 1023 := (pow_succ 2 1023).trans (mul_two _)
  rw [limit, top]
  exact le_sub_iff_add_le.mpr (add_le_add (step (Nat.le_of_lt_succ small)) (step (by omega)))

theorem last_rank : ∃ last top : Nat, rankCount = last + 1 ∧ last % 2 = 1 ∧
    unitsOfRank last = top * unitsPerOne ∧ (top : ℚ) < limit ∧
    ((unitsOfRank last + unitsOfRank (last + 1) : Nat) : ℚ) = 2 * limit * unitsPerOne := by
  obtain ⟨ones, size, power⟩ := unitsPerOne_power
  obtain ⟨s, m, parts, place, full⟩ : ∃ s m, rankCount - 1 = s * binade + m ∧ s = 2045 ∧ m + 1 = 2 * binade :=
    ⟨2045, 2 * binade - 1, by unfold rankCount binade; omega, rfl, by unfold binade; omega⟩
  have most : m < 2 * binade := by omega
  have least : s = 0 ∨ binade ≤ m := by unfold binade at *; omega
  have own : unitsOfRank (s * binade + m) = m * 2 ^ s := unitsOfRank_parts (Nat.le_of_lt most) least
  have before : (m : ℚ) = 2 * 2 ^ 52 - 1 := by
    rw [eq_sub_iff_add_eq]
    exact_mod_cast full
  have top : (2 : ℚ) ^ 1024 = 2 ^ 970 * 2 ^ 54 := by rw [← pow_add]
  refine ⟨s * binade + m, m * 2 ^ 971, by unfold rankCount at *; omega, by unfold binade at *; omega, ?_, ?_, ?_⟩
  · rw [own, power, place, size, Nat.mul_assoc, ← pow_add]
  · have step : (2 : ℚ) ^ 971 = 2 ^ 970 * 2 := pow_succ 2 970
    have some : (0 : ℚ) < 2 ^ 970 := by positivity
    rw [Nat.cast_mul, Nat.cast_pow, Nat.cast_ofNat, before, limit, top, step]
    generalize (2 : ℚ) ^ 970 = a at some
    linarith only [some]
  · rw [unitsOfRank_succ most least, own, full, power]
    have step : (2 : ℚ) ^ 2045 = 2 ^ 970 * 2 ^ 1074 * 2 := by rw [← pow_add, ← pow_succ]
    push_cast
    rw [before, place, size, limit, step, top, show (4503599627370496 : ℚ) = 2 ^ 52 by norm_num]
    generalize (2 : ℚ) ^ 970 = a
    generalize (2 : ℚ) ^ 1074 = b
    ring

theorem ofRank_finite_iff (r : Nat) : (ofRank negative r).isFinite = true ↔ r < rankCount := by
  unfold ofRank
  split
  · rename_i less
    exact iff_of_true rfl less
  · rename_i beyond
    exact iff_of_false Bool.false_ne_true beyond

theorem ofRatio_finite_iff (positive : 0 < d) : (ofRatio negative n d).isFinite = true ↔ (n : ℚ) / d < limit := by
  obtain ⟨last, top, count, odd, _, _, middle⟩ := last_rank
  have some : (0 : ℚ) < d := Nat.cast_pos.mpr positive
  have order : (n : ℚ) / d < limit ↔ 2 * (n * unitsPerOne) < (unitsOfRank last + unitsOfRank (last + 1)) * d := by
    rw [← Nat.cast_lt (α := ℚ), Nat.cast_mul _ d, middle, div_lt_iff₀ some]
    push_cast
    rw [show 2 * ((n : ℚ) * unitsPerOne) = n * (2 * unitsPerOne) by ring,
      show 2 * limit * unitsPerOne * (d : ℚ) = limit * d * (2 * unitsPerOne) by ring]
    exact (mul_lt_mul_iff_left₀ (by linarith [ones_positive])).symm
  have steps {i j : Nat} (less : i ≤ j) :
      (unitsOfRank i + unitsOfRank (i + 1)) * d ≤ (unitsOfRank j + unitsOfRank (j + 1)) * d :=
    Nat.mul_le_mul_right d (Nat.add_le_add (unitsOfRank_strictMono.monotone less)
      (unitsOfRank_strictMono.monotone (Nat.succ_le_succ less)))
  unfold ofRatio ofUnits
  rw [ofRank_finite_iff, order, count]
  constructor
  · intro within
    obtain ⟨high, even⟩ := rankOfRatio_high positive (rfl : rankOfRatio (n * unitsPerOne) d = _)
    rcases Nat.lt_or_eq_of_le (Nat.le_of_lt_succ within) with before | own
    · have strict : (unitsOfRank (last - 1) + unitsOfRank last) * d <
          (unitsOfRank last + unitsOfRank (last + 1)) * d := by
        refine Nat.mul_lt_mul_of_pos_right ?_ positive
        exact Nat.add_lt_add (unitsOfRank_strictMono (by omega)) (unitsOfRank_strictMono (Nat.lt_succ_self last))
      have early := steps (Nat.le_sub_one_of_lt before)
      rw [Nat.sub_add_cancel (by omega : 1 ≤ last)] at early
      exact Nat.lt_of_le_of_lt (high.trans early) strict
    · rw [own] at high even
      refine Nat.lt_of_le_of_ne high fun tie => ?_
      have := even tie
      omega
  · intro inside
    by_contra beyond
    obtain ⟨k, rank⟩ : ∃ k, rankOfRatio (n * unitsPerOne) d = k + 1 :=
      Nat.exists_eq_succ_of_ne_zero (by omega)
    have low := (rankOfRatio_low positive rank).1
    exact absurd (Nat.lt_of_lt_of_le inside (steps (by omega))) (Nat.not_lt_of_le low)

theorem ofRank_cases (negative : Bool) (r : Nat) :
    (∃ x, ofRank negative r = .finite x) ∨ ofRank negative r = .infinite negative := by
  unfold ofRank
  split
  · exact .inl ⟨_, rfl⟩
  · exact .inr rfl

theorem ofRatio_infinite (positive : 0 < d) (beyond : limit ≤ (n : ℚ) / d) :
    ofRatio negative n d = .infinite negative := by
  rcases ofRank_cases negative (rankOfRatio (n * unitsPerOne) d) with ⟨x, finite⟩ | infinite
  · have same : (ofRatio negative n d).isFinite = true := by
      unfold ofRatio ofUnits
      rw [finite]
      rfl
    exact absurd ((ofRatio_finite_iff positive).mp same) (not_lt_of_ge beyond)
  · exact infinite

theorem ofRatio_huge {digits e : Nat} (some : digits ≠ 0) (large : 1024 ≤ Nat.log2 digits + 3 * e) :
    ofRatio negative (digits * 10 ^ e) 1 = .infinite negative := by
  refine ofRatio_infinite Nat.one_pos ?_
  obtain ⟨top, less, bits⟩ := limit_le
  have least : 2 ^ Nat.log2 digits ≤ digits := Nat.log2_self_le some
  have huge : 2 ^ top ≤ digits * 10 ^ e := by
    calc 2 ^ top ≤ 2 ^ (Nat.log2 digits + 3 * e) := Nat.pow_le_pow_right (by decide) (by omega)
      _ = 2 ^ Nat.log2 digits * 2 ^ (3 * e) := pow_add _ _ _
      _ ≤ digits * 10 ^ e := Nat.mul_le_mul least (eight_le_ten e)
  have worth : ((2 ^ top : Nat) : ℚ) ≤ (digits * 10 ^ e : Nat) := Nat.cast_le.mpr huge
  rw [Nat.cast_one, div_one]
  exact less.trans worth

theorem ofRatio_tiny {digits k : Nat} (small : Nat.log2 digits + 1100 < 3 * k) :
    ofRatio negative (digits * 1) (10 ^ k) = ofRank negative 0 := by
  obtain ⟨ones, size, power⟩ := unitsPerOne_power
  have most : digits < 2 ^ (Nat.log2 digits + 1) := Nat.lt_log2_self
  have twice : 2 * (digits * 1 * unitsPerOne) ≤ 10 ^ k := by
    calc 2 * (digits * 1 * unitsPerOne) = digits * 2 ^ (ones + 1) := by rw [power]; ring
      _ ≤ 2 ^ (Nat.log2 digits + 1) * 2 ^ (ones + 1) := Nat.mul_le_mul_right _ (Nat.le_of_lt most)
      _ = 2 ^ (Nat.log2 digits + 1 + (ones + 1)) := (pow_add _ _ _).symm
      _ ≤ 2 ^ (3 * k) := Nat.pow_le_pow_right (by decide) (by omega)
      _ ≤ 10 ^ k := eight_le_ten _
  exact congrArg (ofRank negative) (rankOfRatio_small twice (Nat.pow_pos (by decide)))

-- Powers of ten that are far out of range are not computed, and this does not show.
theorem ofDecimal_eq (negative : Bool) (digits : Nat) (e : Int) :
    ofDecimal negative digits e = ofRatio negative (digits * (tenPower e).1) (tenPower e).2 := by
  unfold ofDecimal
  split
  · rename_i none
    unfold ofRatio ofUnits
    rw [none, Nat.zero_mul, Nat.zero_mul, rankOfRatio_small (Nat.zero_le _) (tenPower_positive e)]
  · rename_i some
    cases e with
    | ofNat e =>
      dsimp only
      split
      · exact (ofRatio_huge some (by omega)).symm
      · rfl
    | negSucc k =>
      dsimp only
      split
      · rename_i tiny
        exact (ofRatio_tiny tiny).symm
      · show _ = ofRatio negative (digits * 1) _
        rw [Nat.mul_one]
        rfl

theorem tenPower_worth (digits : Nat) (e : Int) :
    ((digits * (tenPower e).1 : Nat) : ℚ) / (tenPower e).2 = digits * 10 ^ e := by
  have some : ((tenPower e).2 : ℚ) ≠ 0 := Nat.cast_ne_zero.mpr (Nat.ne_of_gt (tenPower_positive e))
  rw [div_eq_iff some, Nat.cast_mul, tenPower_cast, mul_assoc]

section
variable {digits : Nat} {e : Int}

theorem ofDecimal_finite_iff : (ofDecimal negative digits e).isFinite = true ↔ (digits : ℚ) * 10 ^ e < limit := by
  rw [ofDecimal_eq, ofRatio_finite_iff (tenPower_positive e), tenPower_worth]

theorem ofDecimal_infinite (beyond : limit ≤ (digits : ℚ) * 10 ^ e) :
    ofDecimal negative digits e = .infinite negative := by
  rw [ofDecimal_eq]
  exact ofRatio_infinite (tenPower_positive e) (tenPower_worth digits e ▸ beyond)

theorem ofDecimal_closest {x : Finite} (found : ofDecimal negative digits e = .finite x) :
    x.negative = negative ∧ x.Closest (signed negative (digits * 10 ^ e)) := by
  rw [ofDecimal_eq] at found
  rw [← tenPower_worth]
  exact ofRatio_closest (tenPower_positive e) found

end
end Double
end TidyRows
