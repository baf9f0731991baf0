import Mathlib
import TidyRows.Number.Shortest
namespace TidyRows

-- A quotient is rounded to `m` when it lies within one half of it; at just one half, when `m` is even.
theorem roundDiv_toEven {n d m : Nat} (low : 2 * m * d ≤ 2 * n + d) (high : 2 * n ≤ (2 * m + 1) * d)
    (inner : m % 2 = 1 → 2 * m * d < 2 * n + d ∧ 2 * n < (2 * m + 1) * d) (positive : 0 < d) :
    roundDiv .toEven n d = m := by
  have parts := Nat.div_add_mod n d
  have small := Nat.mod_lt n positive
  unfold roundDiv
  generalize n / d = q at parts ⊢
  generalize n % d = r at parts small ⊢
  subst parts
  have below : m ≤ q + 1 := by
    by_contra far
    have : (q + 2) * d ≤ m * d := Nat.mul_le_mul_right d (by omega)
    nlinarith
  have above : q ≤ m := by
    by_contra far
    have : (m + 1) * d ≤ q * d := Nat.mul_le_mul_right d (by omega)
    nlinarith
  obtain rfl | rfl : m = q ∨ m = q + 1 := by omega
  · have half : 2 * r ≤ d := by nlinarith
    dsimp only
    split
    · rfl
    · rename_i notLess
      have tie : 2 * r = d := by omega
      have even : ¬ m % 2 = 1 := fun odd => by nlinarith [(inner odd).2]
      simp [tie]
      omega
  · have half : d ≤ 2 * r := by nlinarith
    dsimp only
    split
    · omega
    · split
      · rfl
      · rename_i notLess notMore
        have tie : 2 * r = d := by omega
        have even : ¬ (q + 1) % 2 = 1 := fun odd => by nlinarith [(inner odd).1]
        omega

-- Every rank is a number of places of one size, counted from a power of two on.
theorem rank_parts (r : Nat) : ∃ s m, r = s * binade + m ∧ m < 2 * binade ∧ (s = 0 ∨ binade ≤ m) := by
  refine ⟨r / binade - 1, r - (r / binade - 1) * binade, ?_, ?_, ?_⟩ <;> unfold binade <;> omega

theorem unitsOfRank_parts {s m : Nat} (most : m ≤ 2 * binade) (least : s = 0 ∨ binade ≤ m) :
    unitsOfRank (s * binade + m) = m * 2 ^ s := by
  unfold unitsOfRank
  rcases Nat.lt_or_ge m (2 * binade) with less | full
  · have shift : (s * binade + m) / binade - 1 = s := by unfold binade at *; omega
    simp only [shift, Nat.add_sub_cancel_left, Nat.shiftLeft_eq]
  · obtain rfl : m = 2 * binade := Nat.le_antisymm most full
    have shift : (s * binade + 2 * binade) / binade - 1 = s + 1 := by unfold binade; omega
    have rest : s * binade + 2 * binade - (s + 1) * binade = binade := by unfold binade; omega
    simp only [shift, rest, Nat.shiftLeft_eq]
    ring

theorem unitsOfRank_succ {s m : Nat} (most : m < 2 * binade) (least : s = 0 ∨ binade ≤ m) :
    unitsOfRank (s * binade + m + 1) = (m + 1) * 2 ^ s := by
  rw [Nat.add_assoc]
  exact unitsOfRank_parts most (least.imp_right Nat.le_succ_of_le)

theorem unitsOfRank_pred {s m : Nat} (most : m < 2 * binade) (nonzero : 0 < s * binade + m)
    (least : s = 0 ∨ binade < m) : ∃ k, m = k + 1 ∧ unitsOfRank (s * binade + m - 1) = k * 2 ^ s := by
  have some : 0 < m := by
    rcases least with rfl | more
    · rwa [Nat.zero_mul, Nat.zero_add] at nonzero
    · exact Nat.lt_of_le_of_lt (Nat.zero_le _) more
  refine ⟨m - 1, (Nat.sub_add_cancel some).symm, ?_⟩
  rw [Nat.add_sub_assoc some]
  exact unitsOfRank_parts (Nat.le_trans (Nat.sub_le m 1) (Nat.le_of_lt most)) (least.imp_right Nat.le_sub_one_of_lt)

-- Below a power of two the places are half as large.
theorem unitsOfRank_below_power (s : Nat) :
    unitsOfRank ((s + 1) * binade + binade - 1) = (2 * binade - 1) * 2 ^ s := by
  have parts : (s + 1) * binade + binade - 1 = s * binade + (2 * binade - 1) := by unfold binade; omega
  rw [parts]
  exact unitsOfRank_parts (Nat.sub_le _ 1) (.inr (by unfold binade; omega))

theorem below_power_full (s : Nat) : (2 * binade - 1) * 2 ^ s + 2 ^ s = 2 * binade * 2 ^ s := by
  rw [← Nat.succ_mul]
  rfl

theorem log2_shift {n d s : Nat} (positive : 0 < d) (low : s = 0 ∨ 2 ^ (52 + s) * d ≤ n)
    (high : n < 2 ^ (53 + s) * d) : Nat.log2 (n / d) - 52 = s := by
  have less : n / d < 2 ^ (53 + s) := (Nat.div_lt_iff_lt_mul positive).mpr high
  have upper : Nat.log2 (n / d) < 53 + s := by
    rcases Nat.eq_zero_or_pos (n / d) with zero | more
    · rw [zero, Nat.log2_zero]; omega
    · exact (Nat.log2_lt (Nat.ne_of_gt more)).mpr less
  rcases low with rfl | low
  · omega
  · have least : 2 ^ (52 + s) ≤ n / d := (Nat.le_div_iff_mul_le positive).mpr low
    have nonzero : n / d ≠ 0 := by
      have := Nat.two_pow_pos (52 + s)
      omega
    have lower := (Nat.le_log2 nonzero).mpr least
    omega

namespace Shortest

theorem holds_bounds {i : Interval} {n d : Nat} (holds : i.holds n d = true) :
    i.low * d ≤ n ∧ n ≤ i.high * d ∧ (i.closed = false → i.low * d < n ∧ n < i.high * d) := by
  unfold Interval.holds at holds
  cases closed : i.closed with
  | true =>
    simp only [closed, if_true, Bool.and_eq_true, decide_eq_true_eq] at holds
    exact ⟨holds.1, holds.2, fun wrong => by cases wrong⟩
  | false =>
    simp only [closed, Bool.false_eq_true, if_false, Bool.and_eq_true, decide_eq_true_eq] at holds
    exact ⟨Nat.le_of_lt holds.1, Nat.le_of_lt holds.2, fun _ => holds⟩

theorem holds_of_strict {i : Interval} {n d : Nat} (low : i.low * d < n) (high : n < i.high * d) :
    i.holds n d = true := by
  unfold Interval.holds
  split <;> simp only [Bool.and_eq_true, decide_eq_true_eq] <;> omega

theorem holds_same {i : Interval} {n d n' d' : Nat} (same : n * d' = n' * d) (positive : 0 < d) (positive' : 0 < d') :
    i.holds n d = i.holds n' d' := by
  have le (a : Nat) : (a * d ≤ n) = (a * d' ≤ n') := by
    refine propext ⟨fun less => ?_, fun less => ?_⟩
    · refine Nat.le_of_mul_le_mul_right (c := d) ?_ positive
      calc a * d' * d = a * d * d' := by ring
        _ ≤ n * d' := Nat.mul_le_mul_right d' less
        _ = n' * d := same
    · refine Nat.le_of_mul_le_mul_right (c := d') ?_ positive'
      calc a * d * d' = a * d' * d := by ring
        _ ≤ n' * d := Nat.mul_le_mul_right d less
        _ = n * d' := same.symm
  have ge (a : Nat) : (n ≤ a * d) = (n' ≤ a * d') := by
    refine propext ⟨fun less => ?_, fun less => ?_⟩
    · refine Nat.le_of_mul_le_mul_right (c := d) ?_ positive
      calc n' * d = n * d' := same.symm
        _ ≤ a * d * d' := Nat.mul_le_mul_right d' less
        _ = a * d' * d := by ring
    · refine Nat.le_of_mul_le_mul_right (c := d') ?_ positive'
      calc n * d' = n' * d := same
        _ ≤ a * d' * d := Nat.mul_le_mul_right d less
        _ = a * d * d' := by ring
  unfold Interval.holds
  simp only [← Nat.not_le, le, ge]

end Shortest

theorem binade_power (k s : Nat) : 2 ^ (52 + k + s) = binade * 2 ^ k * 2 ^ s := by
  rw [pow_add, pow_add, show 2 ^ 52 = binade from rfl]

-- A quotient lies within half a place of `m` places of one size, and not at the half itself unless `m` is even.
structure Near (n d s m : Nat) : Prop where
  low : 2 * m * (d * 2 ^ s) ≤ 2 * n + d * 2 ^ s
  high : 2 * n ≤ (2 * m + 1) * (d * 2 ^ s)
  inner : m % 2 = 1 → 2 * m * (d * 2 ^ s) < 2 * n + d * 2 ^ s ∧ 2 * n < (2 * m + 1) * (d * 2 ^ s)

-- It is rounded to them when the places have the size that belongs to the quotient.
theorem Near.rank {n d s m : Nat} (near : Near n d s m) (positive : 0 < d) (start : s = 0 ∨ 2 ^ (52 + s) * d ≤ n)
    (top : n < 2 ^ (53 + s) * d) : rankOfRatio n d = s * binade + m := by
  have shift := log2_shift positive start top
  have rounded : roundDiv .toEven n (d * 2 ^ s) = m :=
    roundDiv_toEven near.low near.high near.inner (Nat.mul_pos positive (Nat.two_pow_pos s))
  unfold rankOfRatio
  simp only [shift, Nat.shiftLeft_eq, rounded]

-- The interval of a rank in places of the size that the rank has. Below a power of two it is half as long.
structure Placed (n d s m : Nat) : Prop where
  high : 2 * n ≤ (2 * m + 1) * (d * 2 ^ s)
  highOdd : m % 2 = 1 → 2 * n < (2 * m + 1) * (d * 2 ^ s)
  low : s = 0 ∨ binade < m → 2 * m * (d * 2 ^ s) ≤ 2 * n + d * 2 ^ s
  lowOdd : s = 0 ∨ binade < m → m % 2 = 1 → 2 * m * (d * 2 ^ s) < 2 * n + d * 2 ^ s
  lowPower : ∀ t, s = t + 1 → m = binade → 4 * binade * (d * 2 ^ t) ≤ 2 * n + d * 2 ^ t

theorem placed_of_holds {n d s m : Nat} (holds : (Shortest.Interval.ofRank (s * binade + m)).holds (2 * n) d = true)
    (nonzero : 0 < s * binade + m) (most : m < 2 * binade) (least : s = 0 ∨ binade ≤ m) : Placed n d s m := by
  obtain ⟨low, high, inner⟩ := Shortest.holds_bounds holds
  have here : unitsOfRank (s * binade + m) = m * 2 ^ s := unitsOfRank_parts (Nat.le_of_lt most) least
  have next : unitsOfRank (s * binade + m + 1) = (m + 1) * 2 ^ s := unitsOfRank_succ most least
  have parity : (s * binade + m) % 2 = m % 2 := by
    rw [Nat.add_mod, Nat.mul_mod, show binade % 2 = 0 from rfl, Nat.mul_zero, Nat.zero_mod, Nat.zero_add, Nat.mod_mod]
  simp only [Shortest.Interval.ofRank, here, next, parity] at low high inner
  refine ⟨by linarith, fun odd => ?_, fun inside => ?_, fun inside odd => ?_, ?_⟩
  · have := (inner (by simp [odd])).2
    linarith
  · obtain ⟨k, rfl, before⟩ := unitsOfRank_pred most nonzero inside
    rw [before] at low
    linarith
  · obtain ⟨k, rfl, before⟩ := unitsOfRank_pred most nonzero inside
    rw [before] at inner
    have := (inner (by simp [odd])).1
    linarith
  · rintro t rfl rfl
    rw [unitsOfRank_below_power, pow_succ] at low
    have : ((2 * binade - 1) * 2 ^ t + 2 ^ t + binade * (2 ^ t * 2)) * d ≤ 2 * n + 2 ^ t * d := by linarith
    rw [below_power_full] at this
    linarith

-- What lies in the interval of a rank, counted in half units, is rounded to that rank.
theorem rankOfRatio_of_holds {n d r : Nat} (holds : (Shortest.Interval.ofRank r).holds (2 * n) d = true)
    (positive : 0 < d) (nonzero : 0 < r) : rankOfRatio n d = r := by
  obtain ⟨s, m, rfl, most, least⟩ := rank_parts r
  have placed := placed_of_holds holds nonzero most least
  by_cases start : s = 0 ∨ 2 ^ (52 + s) * d ≤ n
  · -- the quotient is counted in places of the size that the number has
    have place : 0 < d * 2 ^ s := Nat.mul_pos positive (Nat.two_pow_pos s)
    have top : n < 2 ^ (53 + s) * d := by
      rw [binade_power 1 s]
      have : (m + 1) * (d * 2 ^ s) ≤ 2 * binade * (d * 2 ^ s) := Nat.mul_le_mul_right _ most
      linarith [placed.high]
    have near : Near n d s m := by
      by_cases inside : s = 0 ∨ binade < m
      · exact ⟨placed.low inside, placed.high, fun odd => ⟨placed.lowOdd inside odd, placed.highOdd odd⟩⟩
      · have power : m = binade := by omega
        have reached := start.resolve_left fun zero => inside (.inl zero)
        rw [show 52 + s = 52 + 0 + s from rfl, binade_power 0 s, ← power] at reached
        refine ⟨by linarith, placed.high, fun odd => ?_⟩
        rw [power] at odd
        cases odd
    exact near.rank positive start top
  · -- only a power of two has a part of its interval below it
    obtain ⟨s, rfl⟩ : ∃ t, s = t + 1 := ⟨s - 1, by omega⟩
    have under : n < binade * (d * 2 ^ (s + 1)) := by
      have := Nat.lt_of_not_le fun reached => start (.inr reached)
      rw [show 52 + (s + 1) = 52 + 0 + (s + 1) from rfl, binade_power 0 (s + 1)] at this
      linarith
    have power : m = binade := by
      by_contra other
      have more : binade < m := by omega
      have := placed.low (.inr more)
      have : (binade + 1) * (d * 2 ^ (s + 1)) ≤ m * (d * 2 ^ (s + 1)) := Nat.mul_le_mul_right _ more
      linarith
    subst power
    rw [pow_succ] at under
    have half : 0 < d * 2 ^ s := Nat.mul_pos positive (Nat.two_pow_pos s)
    have reached := placed.lowPower s rfl rfl
    have near : Near n d s (2 * binade) := ⟨by linarith, by linarith, fun odd => by cases odd⟩
    have rank := near.rank positive (.inr ?_) ?_
    · rw [rank]
      ring
    · rw [show 52 + s = 52 + 0 + s from rfl, binade_power 0 s]
      linarith
    · rw [show 53 + s = 52 + 1 + s from rfl, binade_power 1 s]
      linarith

end TidyRows
