import Mathlib
import TidyRows.Proofs.Number.Decimal
namespace TidyRows

theorem le_roundDiv {k : Nat} (below : k * d ≤ n) (positive : 0 < d) : k ≤ roundDiv .toEven n d := by
  have whole : k ≤ n / d := (Nat.le_div_iff_mul_le positive).mpr below
  unfold roundDiv
  dsimp only
  split
  · exact whole
  · split <;> omega

theorem roundDiv_le {tie : Tie} {k : Nat} (above : n ≤ k * d) (positive : 0 < d) : roundDiv tie n d ≤ k := by
  have parts := Nat.div_add_mod' n d
  rcases Nat.lt_or_ge (n / d) k with less | full
  · unfold roundDiv
    dsimp only
    repeat' split
    all_goals omega
  · have rest : n % d = 0 := by
      have := Nat.mul_le_mul_right d full
      omega
    have most : n / d ≤ k := Nat.div_le_of_le_mul (Nat.mul_comm k d ▸ above)
    have small : 2 * 0 < d := by omega
    unfold roundDiv
    dsimp only
    rw [rest, if_pos small]
    exact most

theorem roundDiv_mono {n m : Nat} (less : n ≤ m) (positive : 0 < d) :
    roundDiv .toEven n d ≤ roundDiv .toEven m d := by
  have parts := Nat.div_add_mod' n d
  have small := Nat.mod_lt n positive
  rcases Nat.lt_or_ge (n / d) (m / d) with apart | same
  · calc roundDiv .toEven n d ≤ n / d + 1 := roundDiv_le (by rw [Nat.add_mul]; omega) positive
      _ ≤ m / d := apart
      _ ≤ roundDiv .toEven m d := le_roundDiv (Nat.div_mul_le_self m d) positive
  · have quotient : n / d = m / d := Nat.le_antisymm (Nat.div_le_div_right less) same
    have rest : n % d ≤ m % d := by
      have parts' := Nat.div_add_mod' m d
      rw [quotient] at parts
      omega
    unfold roundDiv
    rw [quotient]
    dsimp only
    repeat' split
    all_goals omega

-- Of two quotients in different binades the greater one begins where the places of the other end.
theorem rankOfRatio_mono {n m : Nat} (less : n ≤ m) (positive : 0 < d) : rankOfRatio n d ≤ rankOfRatio m d := by
  have logs : Nat.log2 (n / d) ≤ Nat.log2 (m / d) := by
    rw [Nat.log2_eq_log_two, Nat.log2_eq_log_two]
    exact Nat.log_mono_right (Nat.div_le_div_right less)
  unfold rankOfRatio
  dsimp only
  rcases Nat.eq_or_lt_of_le (Nat.sub_le_sub_right logs 52) with same | later
  · rw [same]
    exact Nat.add_le_add_left (roundDiv_mono less (Nat.shiftLeft_eq .. ▸ Nat.mul_pos positive (Nat.two_pow_pos _))) _
  · generalize first : Nat.log2 (n / d) - 52 = s at later ⊢
    generalize second : Nat.log2 (m / d) - 52 = t at later ⊢
    have place (k : Nat) : 0 < d * 2 ^ k := Nat.mul_pos positive (Nat.two_pow_pos k)
    simp only [Nat.shiftLeft_eq]
    have top : roundDiv .toEven n (d * 2 ^ s) ≤ 2 * binade := by
      refine roundDiv_le ?_ (place s)
      have bits : n / d < 2 ^ (52 + 1 + s) := lt_of_lt_of_le Nat.lt_log2_self (Nat.pow_le_pow_right (by omega) (by omega))
      have whole : n < 2 ^ (52 + 1 + s) * d := (Nat.div_lt_iff_lt_mul positive).mp bits
      rw [binade_power] at whole
      linarith
    have bottom : binade ≤ roundDiv .toEven m (d * 2 ^ t) := by
      refine le_roundDiv ?_ (place t)
      have some : m / d ≠ 0 := by
        intro none
        rw [none, Nat.log2_zero] at second
        omega
      have bits : 2 ^ (52 + 0 + t) ≤ m / d :=
        (Nat.pow_le_pow_right (by omega) (by omega)).trans (Nat.log2_self_le some)
      have whole : 2 ^ (52 + 0 + t) * d ≤ m := (Nat.le_div_iff_mul_le positive).mp bits
      rw [binade_power] at whole
      linarith
    calc s * binade + roundDiv .toEven n (d * 2 ^ s) ≤ s * binade + 2 * binade := Nat.add_le_add_left top _
      _ = (s + 1) * binade + binade := by ring
      _ ≤ t * binade + roundDiv .toEven m (d * 2 ^ t) :=
        Nat.add_le_add (Nat.mul_le_mul_right _ later) bottom

theorem unitsOfRank_strictMono : StrictMono unitsOfRank := by
  refine strictMono_nat_of_lt_succ fun r => ?_
  rcases Nat.eq_zero_or_pos r with rfl | nonzero
  · decide
  · obtain ⟨gap, some, _, after, _⟩ := Shortest.unitsOfRank_gaps nonzero
    omega

theorem rankOfRatio_unitsOfRank (r : Nat) (positive : 0 < d) : rankOfRatio (unitsOfRank r * d) d = r := by
  rcases Nat.eq_zero_or_pos r with rfl | nonzero
  · have none : unitsOfRank 0 = 0 := by decide
    unfold rankOfRatio roundDiv
    simp [none, positive]
  · obtain ⟨gap, some, before, after, _⟩ := Shortest.unitsOfRank_gaps nonzero
    refine rankOfRatio_of_holds (Shortest.holds_of_strict ?_ ?_) positive nonzero
    · calc (unitsOfRank (r - 1) + unitsOfRank r) * d < 2 * unitsOfRank r * d :=
          Nat.mul_lt_mul_of_pos_right (by omega) positive
        _ = 2 * (unitsOfRank r * d) := Nat.mul_assoc ..
    · calc 2 * (unitsOfRank r * d) = 2 * unitsOfRank r * d := (Nat.mul_assoc ..).symm
        _ < (unitsOfRank r + unitsOfRank (r + 1)) * d := Nat.mul_lt_mul_of_pos_right (by omega) positive

namespace Double

-- The place among the numbers from zero on. Infinity comes after all others, and last what is no number.
def height : Double → Nat
  | finite x => x.rank
  | infinite _ => rankCount
  | nan => rankCount + 1

def Unsigned : Double → Prop
  | finite x => x.negative = false
  | infinite negative => negative = false
  | nan => True

structure Grown (d : Double) : Prop where
  unsigned : d.Unsigned
  high : one.height ≤ d.height

section
variable {a b c d : Double}

theorem ofRank_unsigned (r : Nat) : (ofRank false r).Unsigned := by
  unfold ofRank
  split <;> rfl

theorem ofRank_height (r : Nat) : (ofRank false r).height = min r rankCount := by
  unfold ofRank
  split
  · rename_i small
    exact (Nat.min_eq_left (Nat.le_of_lt small)).symm
  · rename_i large
    exact (Nat.min_eq_right (Nat.le_of_not_lt large)).symm

theorem ofRank_rank (x : Finite) (unsigned : x.negative = false) : ofRank false x.rank = finite x := by
  obtain ⟨negative, rank⟩ := x
  cases unsigned
  exact dif_pos rank.isLt

protected theorem mul_comm (a b : Double) : a * b = b * a := by
  change mul a b = mul b a
  cases a <;> cases b <;> simp only [mul, bne_comm, Nat.mul_comm]

theorem mul_unsigned (first : a.Unsigned) (second : b.Unsigned) : (a * b).Unsigned := by
  change (mul a b).Unsigned
  cases a with
  | nan => trivial
  | infinite s =>
    cases b with
    | nan => trivial
    | infinite t => simp_all [mul, Unsigned]
    | finite y =>
      rw [mul]
      split
      · trivial
      · simp_all [Unsigned]
  | finite x =>
    cases b with
    | nan => trivial
    | infinite t =>
      rw [mul]
      split
      · trivial
      · simp_all [Unsigned]
    | finite y =>
      rw [mul, ofUnits, show x.negative = false from first, show y.negative = false from second]
      exact ofRank_unsigned _

theorem div_unsigned (first : a.Unsigned) (second : b.Unsigned) : (a / b).Unsigned := by
  change (div a b).Unsigned
  cases a with
  | nan => trivial
  | infinite s =>
    cases b with
    | nan => trivial
    | infinite t => trivial
    | finite y => simp_all [div, Unsigned]
  | finite x =>
    cases b with
    | nan => trivial
    | infinite t =>
      rw [div, show x.negative = false from first, show t = false from second]
      exact ofRank_unsigned 0
    | finite y =>
      rw [div, show x.negative = false from first, show y.negative = false from second]
      split
      · split <;> trivial
      · exact ofRank_unsigned _

theorem mul_finite {x y : Finite} (first : x.negative = false) (second : y.negative = false) :
    finite x * finite y = ofRank false (rankOfRatio (unitsOfRank x.rank * unitsOfRank y.rank) unitsPerOne) := by
  change ofUnits (x.negative != y.negative) _ _ = _
  rw [first, second]
  rfl

theorem unitsPerOne_positive : 0 < unitsPerOne := by decide

theorem isZero_of_positive {x : Finite} (some : 0 < (finite x).height) : x.isZero = false := by
  have nonzero : x.rank.val ≠ 0 := Nat.ne_of_gt some
  simpa [Finite.isZero] using nonzero

theorem height_le (d : Double) : d.height ≤ rankCount + 1 := by
  cases d with
  | finite x => exact Nat.le_of_lt (Nat.lt_succ_of_lt x.rank.isLt)
  | infinite s => exact Nat.le_succ _
  | nan => exact Nat.le_refl _

-- Nothing times infinity is no number, so the smaller factor has to be something.
theorem mul_mono_right (unsigned : a.Unsigned) (second : b.Unsigned) (third : c.Unsigned) (some : 0 < b.height)
    (less : b.height ≤ c.height) : (a * b).height ≤ (a * c).height := by
  cases c with
  | nan =>
    have last : a * nan = nan := by cases a <;> rfl
    rw [last]
    exact height_le _
  | infinite t =>
    cases b with
    | nan => exact absurd less (Nat.not_le_of_lt (Nat.lt_succ_self _))
    | infinite s => rw [show s = false from second, show t = false from third]
    | finite y =>
      have zero := isZero_of_positive some
      change (mul a _).height ≤ (mul a _).height
      cases a with
      | nan => exact Nat.le_refl _
      | infinite s => simp [mul, zero, height]
      | finite x =>
        have low : (mul (finite x) (finite y)).height ≤ rankCount := by
          change (finite x * finite y).height ≤ rankCount
          rw [mul_finite unsigned second, ofRank_height]
          exact Nat.min_le_right _ _
        refine low.trans ?_
        rw [mul]
        split
        · exact Nat.le_succ _
        · exact Nat.le_refl _
  | finite z =>
    cases b with
    | nan => exact absurd less (Nat.not_le_of_lt (Nat.lt_succ_of_lt z.rank.isLt))
    | infinite s => exact absurd less (Nat.not_le_of_lt z.rank.isLt)
    | finite y =>
      cases a with
      | nan => exact Nat.le_refl _
      | infinite s =>
        have zero := isZero_of_positive some
        have zero' := isZero_of_positive (Nat.lt_of_lt_of_le some less)
        change (mul _ _).height ≤ (mul _ _).height
        simp [mul, zero, zero', height]
      | finite x =>
        rw [mul_finite unsigned second, mul_finite unsigned third, ofRank_height, ofRank_height]
        have units : unitsOfRank y.rank ≤ unitsOfRank z.rank := unitsOfRank_strictMono.monotone less
        exact min_le_min_right _ (rankOfRatio_mono (Nat.mul_le_mul_left _ units) unitsPerOne_positive)

protected theorem one_mul (unsigned : d.Unsigned) : one * d = d := by
  cases d with
  | nan => rfl
  | infinite s =>
    rw [show s = false from unsigned]
    rfl
  | finite x =>
    have units : unitsOfRank Finite.one.rank = unitsPerOne := by decide
    rw [one, mul_finite rfl unsigned, units, Nat.mul_comm, rankOfRatio_unitsOfRank _ unitsPerOne_positive,
      ofRank_rank x unsigned]

namespace Grown

theorem positive (grown : d.Grown) : 0 < d.height := Nat.lt_of_lt_of_le (by decide) grown.high

theorem one : one.Grown := ⟨rfl, Nat.le_refl _⟩

theorem mul_left (grown : a.Grown) (other : b.Grown) : a.height ≤ (b * a).height := by
  have product := mul_mono_right grown.unsigned one.unsigned other.unsigned one.positive other.high
  rwa [Double.mul_comm a, Double.one_mul grown.unsigned, Double.mul_comm a] at product

theorem mul (grown : a.Grown) (other : b.Grown) : (a * b).Grown :=
  ⟨mul_unsigned grown.unsigned other.unsigned, other.high.trans (other.mul_left grown)⟩

end Grown

variable {base product : Double} {n fuel : Nat}

theorem powSteps_zero (fuel : Nat) (base product : Double) : powSteps fuel 0 base product = product := by
  cases fuel <;> rfl

theorem powSteps_succ (fuel n : Nat) (base product : Double) : powSteps (fuel + 1) n base product =
    powSteps fuel (n / 2) (base * base) (if n % 2 = 1 then product * base else product) := by
  rw [powSteps]
  split
  · rename_i last
    rw [last, powSteps_zero]
  · rfl

-- There are no steps beyond the bits of the exponent.
theorem powSteps_more (bits : n < 2 ^ fuel) (more : Nat) (base product : Double) :
    powSteps (fuel + more) n base product = powSteps fuel n base product := by
  induction fuel generalizing n base product with
  | zero =>
    obtain rfl : n = 0 := by omega
    rw [powSteps_zero, powSteps_zero]
  | succ fuel ih =>
    rw [Nat.add_right_comm, powSteps_succ, powSteps_succ]
    exact ih (by omega) _ _

theorem pow_eq (bits : n < 2 ^ fuel) : base.pow n = powSteps fuel n base one := by
  unfold pow
  split
  · rename_i none
    rw [none, powSteps_zero]
  · have own : n < 2 ^ (Nat.log2 n + 1) := Nat.lt_log2_self
    rw [← powSteps_more own fuel, ← powSteps_more bits (Nat.log2 n + 1), Nat.add_comm]

theorem powSteps_grown (fuel n : Nat) (grown : base.Grown) (other : product.Grown) :
    (powSteps fuel n base product).Grown := by
  induction fuel generalizing n base product with
  | zero => exact other
  | succ fuel ih =>
    rw [powSteps_succ]
    refine ih _ (grown.mul grown) ?_
    split
    · exact other.mul grown
    · exact other

theorem pow_grown (grown : base.Grown) (n : Nat) : (base.pow n).Grown := by
  rw [pow_eq Nat.lt_two_pow_self]
  exact powSteps_grown _ _ grown .one

theorem powSteps_mono (fuel n : Nat) (grown : base.Grown) (first : a.Grown) (second : b.Grown)
    (less : a.height ≤ b.height) : (powSteps fuel n base a).height ≤ (powSteps fuel n base b).height := by
  induction fuel generalizing n base a b with
  | zero => exact less
  | succ fuel ih =>
    rw [powSteps_succ, powSteps_succ]
    split
    · refine ih _ (grown.mul grown) (first.mul grown) (second.mul grown) ?_
      rw [Double.mul_comm a, Double.mul_comm b]
      exact mul_mono_right grown.unsigned first.unsigned second.unsigned first.positive less
    · exact ih _ (grown.mul grown) first second less

-- Counting the exponent up by one carries a bit from place to place. What the lower bits have brought together is not
-- more than the factor of the place that the carry has come to.
theorem powSteps_carry (bits : n + 1 < 2 ^ fuel) (grown : base.Grown) (other : product.Grown)
    (less : product.height ≤ base.height) :
    (powSteps fuel n base product).height ≤ (powSteps fuel (n + 1) base one).height := by
  induction fuel generalizing n base product with
  | zero => omega
  | succ fuel ih =>
    rw [powSteps_succ, powSteps_succ]
    rcases Nat.mod_two_eq_zero_or_one n with even | odd
    · rw [if_neg (by omega), if_pos (by omega), Double.one_mul grown.unsigned, show (n + 1) / 2 = n / 2 by omega]
      exact powSteps_mono _ _ (grown.mul grown) other grown less
    · rw [if_pos odd, if_neg (by omega), show (n + 1) / 2 = n / 2 + 1 by omega]
      refine ih (by omega) (grown.mul grown) (other.mul grown) ?_
      rw [Double.mul_comm product]
      exact mul_mono_right grown.unsigned other.unsigned grown.unsigned other.positive less

theorem pow_mono (grown : base.Grown) : Monotone fun n => (base.pow n).height := by
  refine monotone_nat_of_le_succ fun n => ?_
  have bits : n + 1 < 2 ^ (n + 1) := Nat.lt_two_pow_self
  rw [pow_eq (Nat.lt_of_succ_lt bits), pow_eq bits]
  exact powSteps_carry bits grown .one grown.high

theorem signedUnits_unsigned {x : Finite} (unsigned : x.negative = false) : x.signedUnits = unitsOfRank x.rank := by
  rw [Finite.signedUnits, unsigned]
  rfl

theorem le_iff_height (first : a.Unsigned) (second : b.Unsigned) (number : a ≠ nan) (other : b ≠ nan) :
    a.le b = true ↔ a.height ≤ b.height := by
  cases a with
  | nan => exact absurd rfl number
  | infinite s =>
    rw [show s = false from first]
    cases b with
    | nan => exact absurd rfl other
    | infinite t =>
      rw [show t = false from second]
      exact iff_of_true rfl (Nat.le_refl _)
    | finite y => exact iff_of_false (by simp [le]) (Nat.not_le_of_lt y.rank.isLt)
  | finite x =>
    cases b with
    | nan => exact absurd rfl other
    | infinite t =>
      rw [show t = false from second]
      exact iff_of_true rfl (Nat.le_of_lt x.rank.isLt)
    | finite y =>
      rw [le, signedUnits_unsigned first, signedUnits_unsigned second, decide_eq_true_iff, Int.ofNat_le]
      exact unitsOfRank_strictMono.le_iff_le

-- What is not less than one is at least one, or no number.
theorem grown_of_not_lt (least : d.lt one = false) : d.Grown := by
  cases d with
  | nan => exact ⟨trivial, height_le one⟩
  | infinite s =>
    cases s with
    | true => cases least
    | false => exact ⟨rfl, Nat.le_of_lt Finite.one.rank.isLt⟩
  | finite x =>
    have order : Finite.one.signedUnits ≤ x.signedUnits := by simpa [lt, le, one] using least
    have unsigned : x.negative = false := by
      by_contra negative
      have below : x.signedUnits ≤ 0 := by
        rw [Finite.signedUnits, if_pos (by simpa using negative)]
        omega
      exact absurd (order.trans below) (by decide)
    rw [signedUnits_unsigned unsigned] at order
    exact ⟨unsigned, unitsOfRank_strictMono.le_iff_le.mp (Int.ofNat_le.mp order)⟩

theorem height_lt_iff : a.height < nan.height ↔ a ≠ nan := by
  cases a with
  | finite x => exact iff_of_true (Nat.lt_succ_of_lt x.rank.isLt) (by simp)
  | infinite s => exact iff_of_true (Nat.lt_succ_self _) (by simp)
  | nan => exact iff_of_false (Nat.lt_irrefl _) (by simp)

theorem minNumber_eq (first : a.Unsigned) (second : b.Unsigned) (number : b ≠ nan) :
    a.minNumber b = if a.height ≤ b.height then a else b := by
  by_cases none : a = nan
  · subst a
    rw [if_neg (Nat.not_le_of_lt (height_lt_iff.mpr number))]
    cases b <;> rfl
  · have order := le_iff_height first second none number
    have smaller : a.minNumber b = if b.lt a then b else a := by
      unfold minNumber
      split
      · exact absurd rfl none
      · exact absurd rfl number
      · rfl
    have less : b.lt a = !a.le b := by
      unfold lt
      split
      · exact absurd rfl number
      · exact absurd rfl none
      · rfl
    rw [smaller, less]
    by_cases within : a.height ≤ b.height
    · rw [if_pos within, order.mpr within]
      rfl
    · rw [if_neg within, Bool.eq_false_iff.mpr (fun whole => within (order.mp whole))]
      rfl

theorem toNatClamped_finite (limit : Nat) {x : Finite} (unsigned : x.negative = false) :
    (finite x).toNatClamped limit = min limit (x.units / unitsPerOne) := by
  rw [toNatClamped, unsigned, if_neg Bool.false_ne_true]

theorem toNatClamped_le (limit : Nat) (d : Double) : d.toNatClamped limit ≤ limit := by
  cases d with
  | nan => exact Nat.zero_le _
  | infinite s => cases s with
    | true => exact Nat.zero_le _
    | false => exact Nat.le_refl _
  | finite x =>
    rw [toNatClamped]
    split
    · exact Nat.zero_le _
    · exact Nat.min_le_left _ _

theorem toNatClamped_mono (limit : Nat) (first : a.Unsigned) (second : b.Unsigned) (number : b ≠ nan)
    (less : a.height ≤ b.height) : a.toNatClamped limit ≤ b.toNatClamped limit := by
  cases b with
  | nan => exact absurd rfl number
  | infinite t =>
    rw [show t = false from second]
    exact toNatClamped_le limit a
  | finite y =>
    cases a with
    | nan => exact Nat.zero_le _
    | infinite s => exact absurd less (Nat.not_le_of_lt y.rank.isLt)
    | finite x =>
      have units : x.units ≤ y.units := unitsOfRank_strictMono.monotone less
      rw [toNatClamped_finite limit first, toNatClamped_finite limit second]
      exact min_le_min_left _ (Nat.div_le_div_right units)

theorem toNatClamped_minNumber_mono (limit : Nat) (first : a.Unsigned) (second : b.Unsigned) (third : c.Unsigned)
    (number : c ≠ nan) (less : a.height ≤ b.height) :
    (a.minNumber c).toNatClamped limit ≤ (b.minNumber c).toNatClamped limit := by
  rw [minNumber_eq first third number, minNumber_eq second third number]
  by_cases within : b.height ≤ c.height
  · have number' : b ≠ nan := height_lt_iff.mp (Nat.lt_of_le_of_lt within (height_lt_iff.mpr number))
    rw [if_pos within, if_pos (less.trans within)]
    exact toNatClamped_mono limit first second number' less
  · rw [if_neg within]
    split
    · rename_i within'
      exact toNatClamped_mono limit first third number within'
    · exact Nat.le_refl _

theorem toNatClamped_minNumber_le (limit : Nat) (unsigned : a.Unsigned) (other : c.Unsigned) (number : c ≠ nan) :
    (a.minNumber c).toNatClamped limit ≤ c.toNatClamped limit :=
  toNatClamped_minNumber_mono limit unsigned (b := nan) trivial other number (height_le a)

theorem ofNat_unsigned (n : Nat) : (ofNat n).Unsigned := ofRank_unsigned _

theorem ofNat_number (n : Nat) : ofNat n ≠ nan := by
  rw [ofNat, ofRatio, ofUnits, ofRank]
  split <;> simp

-- Whole numbers of up to 53 bits are numbers.
theorem exists_rank {n : Nat} (bits : n ≤ 2 ^ 53) : ∃ r < rankCount, unitsOfRank r = n * unitsPerOne := by
  rcases Nat.eq_zero_or_pos n with rfl | positive
  · exact ⟨0, by decide, by decide⟩
  · obtain ⟨e, small, least, most⟩ : ∃ e ≤ 52, binade ≤ n * 2 ^ e ∧ n * 2 ^ e ≤ 2 * binade := by
      by_cases last : n = 2 ^ 53
      · subst n
        exact ⟨0, by decide, by decide, by decide⟩
      · have nonzero : n ≠ 0 := Nat.ne_of_gt positive
        have log : Nat.log2 n < 53 := (Nat.log2_lt nonzero).mpr (Nat.lt_of_le_of_ne bits last)
        have fills : 2 ^ Nat.log2 n * 2 ^ (52 - Nat.log2 n) = binade := by
          rw [← pow_add, Nat.add_sub_cancel' (Nat.le_of_lt_succ log)]
          rfl
        refine ⟨52 - Nat.log2 n, Nat.sub_le _ _, ?_, ?_⟩
        · rw [← fills]
          exact Nat.mul_le_mul_right _ (Nat.log2_self_le nonzero)
        · rw [← fills, ← Nat.mul_assoc, ← pow_succ']
          exact Nat.mul_le_mul_right _ (Nat.le_of_lt Nat.lt_log2_self)
    obtain ⟨ones, size, power⟩ := unitsPerOne_power
    refine ⟨(ones - e) * binade + n * 2 ^ e, ?_, ?_⟩
    · unfold rankCount
      unfold binade at most ⊢
      omega
    · rw [unitsOfRank_parts most (.inr least), Nat.mul_assoc, ← pow_add, Nat.add_sub_cancel' (by omega), ← power]

theorem ofRatio_whole (negative : Bool) {n : Nat} (bits : n ≤ 2 ^ 53) :
    ∃ x : Finite, ofRatio negative n 1 = .finite x ∧ x.negative = negative ∧ x.units = n * unitsPerOne := by
  obtain ⟨r, small, units⟩ := exists_rank bits
  refine ⟨⟨negative, r, small⟩, ?_, rfl, units⟩
  have exact := rankOfRatio_unitsOfRank r Nat.one_pos
  rw [Nat.mul_one, units] at exact
  rw [ofRatio, ofUnits, exact]
  exact dif_pos small

theorem toNatClamped_ofNat (limit : Nat) {n : Nat} (bits : n ≤ 2 ^ 53) : (ofNat n).toNatClamped limit = min limit n := by
  obtain ⟨x, value, unsigned, units⟩ := ofRatio_whole false bits
  rw [ofNat, value, toNatClamped_finite limit unsigned, units, Nat.mul_div_cancel n unitsPerOne_positive]

end
end Double
end TidyRows
