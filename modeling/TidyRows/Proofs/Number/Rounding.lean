import Mathlib
import TidyRows.Number.Rounding
import TidyRows.Proofs.Number.Closest
import TidyRows.Proofs.Number.Literal
import TidyRows.Proofs.Number.Plain
namespace TidyRows

namespace Finite

def numeral (x : Finite) : Numeral := (shortestDecimal .up x.rank).plainNumeral

def shortest (x : Finite) : ℚ := x.numeral.digits * 10 ^ x.numeral.power

-- Whether the number with its point moved to the right, at most as far as rounding does it, is in range.
def Fits (x : Finite) (places : Nat) : Prop := x.shortest * 10 ^ min places Double.maxPlaces < Double.limit

def magnitude (x : Finite) : ℚ := unitsOfRank x.rank / unitsPerOne

section
variable (x y : Finite)

theorem shortest_nonnegative : 0 ≤ x.shortest := by
  unfold shortest
  positivity

theorem shortest_lt_limit : x.shortest < Double.limit := by
  have reads : x.numeral.Reads x := plainNumeral_reads x
  have finite : (Double.ofDecimal x.negative x.numeral.digits x.numeral.power).isFinite = true := by
    rw [reads.value]
    rfl
  exact Double.ofDecimal_finite_iff.mp finite

theorem shortest_closest : x.Closest (signed x.negative x.shortest) := by
  have reads : x.numeral.Reads x := plainNumeral_reads x
  exact (Double.ofDecimal_closest reads.value).2

end

variable {x y : Finite}

theorem shortest_same (same : x.rank = y.rank) : x.shortest = y.shortest := by
  unfold shortest numeral
  rw [same]

theorem magnitude_lt (less : x.rank < y.rank) : x.magnitude < y.magnitude := by
  have ones := Double.ones_positive
  have units : (unitsOfRank x.rank : ℚ) < unitsOfRank y.rank := Nat.cast_lt.mpr (unitsOfRank_strictMono less)
  exact (div_lt_div_iff_of_pos_right ones).mpr units

theorem shortest_le (less : x.rank < y.rank) : x.shortest ≤ y.magnitude := by
  by_contra beyond
  have near := x.shortest_closest.near ⟨x.negative, y.rank⟩
  rw [x.value_signed, value_signed, signed_same, signed_same] at near
  have step := magnitude_lt less
  unfold magnitude at beyond step
  rw [abs_of_neg (by linarith), abs_of_neg (by linarith)] at near
  linarith

theorem le_shortest (less : y.rank < x.rank) : y.magnitude ≤ x.shortest := by
  by_contra short
  have near := x.shortest_closest.near ⟨x.negative, y.rank⟩
  rw [x.value_signed, value_signed, signed_same, signed_same] at near
  have step := magnitude_lt less
  unfold magnitude at short step
  rw [abs_of_pos (by linarith), abs_of_pos (by linarith)] at near
  linarith

-- A whole number shows no point, and a zero behind it would not count.
theorem plainText_parts (x : Finite) : ∃ whole fraction,
    x.plainText = signText x.negative ++ (whole ++ markedText '.' fraction) ∧ whole ≠ [] ∧
      (∀ c ∈ whole, isDigit c = true) ∧ (∀ c ∈ fraction.getD [], isDigit c = true) ∧
        x.shortest = digitsValue 0 (whole ++ fraction.getD []) * 10 ^ (-((fraction.getD []).length : Int)) := by
  obtain ⟨sound, _, _⟩ : x.numeral.Reads x := plainNumeral_reads x
  have filled : x.numeral.whole ≠ [] := by
    rcases sound.lead with zero | ⟨c, rest, lead, _⟩
    · simp [zero]
    · simp [lead]
  have tenth (ds : List Char) : ((digitsValue (digitsValue 0 ds) ['0'] : Nat) : ℚ) * 10 ^ (-1 : Int) =
      digitsValue 0 (ds ++ []) * 10 ^ (0 : Int) := by
    rw [show (['0'] : List Char) = List.replicate 1 '0' from rfl, digitsValue_zeros, List.append_nil]
    push_cast
    field_simp
  unfold shortest Numeral.digits Numeral.power plainText
  unfold numeral Decimal.plainNumeral at *
  generalize shortestDecimal .up x.rank = d at *
  cases none : d.digits.isEmpty with
  | true =>
    simp only [none, if_true] at *
    exact ⟨['0'], .none, by simp [markedText], filled, sound.whole, by simp, tenth ['0']⟩
  | false =>
    simp only [none, Bool.false_eq_true, if_false] at *
    cases whole : d.positional.2.isEmpty with
    | true =>
      simp only [whole, if_true] at *
      exact ⟨d.positional.1, .none, by simp [markedText], filled, sound.whole, by simp, tenth _⟩
    | false =>
      simp only [whole, Bool.false_eq_true, if_false] at *
      refine ⟨d.positional.1, some d.positional.2, rfl, filled, sound.whole, sound.fraction, ?_⟩
      simp [digitsValue_append]

end Finite

namespace Double

theorem movePoint_finite (x : Finite) (shift : Int) : ∃ (digits : Nat) (e : Int), x.shortest = digits * 10 ^ e ∧
    movePoint (.finite x) shift = .ofDecimal x.negative digits (e + shift) := by
  obtain ⟨whole, fraction, text, filled, digits, others, worth⟩ := x.plainText_parts
  refine ⟨_, _, worth, ?_⟩
  have ends : Read.NoDigit ('e' :: intText shift) := Read.noDigit_cons rfl
  have read := ofText?_decimal x.negative filled digits others ends (fun _ same => by cases same)
  have exponent : exponentOfText? ('e' :: intText shift) = some shift := by
    show (if 'e' = 'e' ∨ 'e' = 'E' then intOfText? (intText shift) else none) = some shift
    rw [if_pos (Or.inl rfl)]
    exact intOfText?_intText shift
  unfold movePoint plainText
  dsimp only
  rw [text, List.append_assoc, List.append_assoc, read, exponent, Option.map_some, Option.getD_some]
  congr 1
  ring

theorem movePoint_isFinite (x : Finite) (shift : Int) :
    (movePoint (.finite x) shift).isFinite = true ↔ x.shortest * 10 ^ shift < limit := by
  obtain ⟨digits, e, worth, moved⟩ := movePoint_finite x shift
  rw [moved, ofDecimal_finite_iff, worth, zpow_add₀ (by norm_num), mul_assoc]

-- Infinity is not written as digits, and stays as it is.
theorem movePoint_infinite (negative : Bool) (shift : Int) :
    movePoint (.infinite negative) shift = .infinite negative := by
  have word : ofWord? negative ('i' :: 'n' :: 'f' :: 'e' :: intText shift) = none := by
    unfold ofWord?
    split <;> first | rfl | (rename_i same; simp [String.ext_iff, lowerAscii] at same)
  have read : ofText? (signText negative ++ 'i' :: 'n' :: 'f' :: 'e' :: intText shift) = none := by
    have sign : takeSign (signText negative ++ 'i' :: 'n' :: 'f' :: 'e' :: intText shift) =
        (negative, 'i' :: 'n' :: 'f' :: 'e' :: intText shift) := by
      cases negative <;> rfl
    unfold ofText?
    rw [sign]
    exact word
  unfold movePoint plainText
  dsimp only
  rw [List.append_assoc]
  exact congrArg (·.getD (.infinite negative)) read

theorem movePoint_cases (x : Finite) (shift : Int) :
    (∃ y, movePoint (.finite x) shift = .finite y) ∨ ∃ negative, movePoint (.finite x) shift = .infinite negative := by
  obtain ⟨digits, e, worth, moved⟩ := movePoint_finite x shift
  rw [moved, ofDecimal_eq]
  rcases ofRank_cases x.negative (rankOfRatio _ _) with finite | infinite
  · exact .inl finite
  · exact .inr ⟨_, infinite⟩

theorem units_le (x : Finite) : ∃ top : Nat, (top : ℚ) < limit ∧ x.units ≤ top * unitsPerOne := by
  obtain ⟨last, top, count, _, units, most, _⟩ := last_rank
  have below : x.rank.val ≤ last := Nat.le_of_lt_succ (Nat.lt_of_lt_of_eq x.rank.isLt count)
  exact ⟨top, most, (unitsOfRank_strictMono.monotone below).trans (Nat.le_of_eq units)⟩

theorem roundAway_finite (x : Finite) : (roundAway (.finite x)).isFinite = true := by
  obtain ⟨top, most, units⟩ := units_le x
  unfold roundAway
  rw [ofRatio_finite_iff Nat.one_pos, Nat.cast_one, div_one]
  exact lt_of_le_of_lt (Nat.cast_le.mpr (roundDiv_le units unitsPerOne_positive)) most

theorem movePoint_back (x : Finite) (p : Nat) : (movePoint (.finite x) (-p)).isFinite = true := by
  rw [movePoint_isFinite, zpow_neg, zpow_natCast]
  refine lt_of_le_of_lt (mul_le_of_le_one_right x.shortest_nonnegative ?_) x.shortest_lt_limit
  exact inv_le_one_of_one_le₀ (one_le_pow₀ (by norm_num))

-- What is still a number with its point moved to the right is rounded to a number, and nothing else is.
theorem roundPlaces_finite (x : Finite) (places : Nat) :
    ((finite x).roundPlaces places).isFinite = true ↔ x.Fits places := by
  unfold Finite.Fits
  obtain ⟨p, shift, cast⟩ : ∃ p : Nat, min places maxPlaces = p ∧ min (places : Int) maxPlaces = p :=
    ⟨min places maxPlaces, rfl, by omega⟩
  have moved := movePoint_isFinite x p
  rw [zpow_natCast, ← shift] at moved
  unfold roundPlaces
  dsimp only
  rw [← moved, cast, shift]
  rcases movePoint_cases x p with ⟨y, shifted⟩ | ⟨negative, shifted⟩
  · rw [shifted]
    obtain ⟨z, rounded⟩ := isFinite_iff.mp (roundAway_finite y)
    rw [rounded]
    exact iff_of_true (movePoint_back z p) rfl
  · have back : movePoint (roundAway (.infinite negative)) (-p) = .infinite negative := movePoint_infinite negative (-p)
    rw [shifted, back]

end Double

namespace Finite

def power (k : Nat) (small : k < 1024) : Finite := ⟨false, ⟨(k + 1023) * binade, by unfold rankCount binade; omega⟩⟩

theorem power_magnitude (k : Nat) (small : k < 1024) : (power k small).magnitude = 2 ^ k := by
  obtain ⟨ones, size, units⟩ := unitsPerOne_power
  have exponent : 52 + 0 + (k + 1022) = k + ones := by rw [size, Nat.add_left_comm]
  have parts : (k + 1023) * binade = (k + 1022) * binade + binade := by ring
  have place : binade * 2 ^ (k + 1022) = 2 ^ (52 + 0 + (k + 1022)) := by
    rw [binade_power 0 (k + 1022), pow_zero, Nat.mul_one]
  have most : binade ≤ 2 * binade := by unfold binade; omega
  have worth : unitsOfRank ((k + 1023) * binade) = 2 ^ k * unitsPerOne := by
    calc unitsOfRank ((k + 1023) * binade) = unitsOfRank ((k + 1022) * binade + binade) := congrArg unitsOfRank parts
      _ = binade * 2 ^ (k + 1022) := unitsOfRank_parts (s := k + 1022) (m := binade) most (.inr (Nat.le_of_eq rfl))
      _ = 2 ^ (52 + 0 + (k + 1022)) := place
      _ = 2 ^ (k + ones) := by rw [exponent]
      _ = 2 ^ k * 2 ^ ones := pow_add 2 k ones
      _ = 2 ^ k * unitsPerOne := congrArg (2 ^ k * ·) units.symm
  have ones := ne_of_gt Double.ones_positive
  unfold magnitude
  rw [show (power k small).rank.val = (k + 1023) * binade from rfl, worth, Nat.cast_mul, Nat.cast_pow, Nat.cast_ofNat,
    mul_div_cancel_right₀ _ ones]

variable {x y : Finite}

theorem rank_lt (less : x.magnitude < y.magnitude) : x.rank < y.rank := by
  by_contra more
  rcases lt_or_eq_of_le (not_lt.mp more) with after | same
  · exact absurd (magnitude_lt after) (not_lt_of_gt less)
  · unfold magnitude at less
    rw [same] at less
    exact lt_irrefl _ less

-- Every number below a bound leaves room for the most places.
theorem fits_of_small (small : x.magnitude < 2 ^ 983) (places : Nat) : x.Fits places := by
  rw [← power_magnitude 983 (by decide)] at small
  have shortest := shortest_le (rank_lt small)
  have shift : (10 : ℚ) ^ min places Double.maxPlaces < 2 ^ 40 := by
    refine lt_of_le_of_lt (pow_le_pow_right₀ (by norm_num) (min_le_right places Double.maxPlaces)) ?_
    norm_num [Double.maxPlaces]
  rw [power_magnitude] at shortest
  calc x.shortest * 10 ^ min places Double.maxPlaces ≤ 2 ^ 983 * 10 ^ min places Double.maxPlaces :=
      mul_le_mul_of_nonneg_right shortest (by positivity)
    _ < 2 ^ 983 * 2 ^ 40 := mul_lt_mul_of_pos_left shift (by positivity)
    _ = 2 ^ 1023 := (pow_add 2 983 40).symm
    _ ≤ Double.limit := Double.power_le_limit (by decide)

theorem unfit_of_large {k places : Nat} (small : k < 1024) (large : 2 ^ k < x.magnitude)
    (beyond : Double.limit ≤ 2 ^ k * 10 ^ min places Double.maxPlaces) : ¬x.Fits places := by
  unfold Fits
  rw [not_lt]
  rw [← power_magnitude k small] at large
  have shortest := le_shortest (rank_lt large)
  rw [power_magnitude] at shortest
  exact beyond.trans (mul_le_mul_of_nonneg_right shortest (by positivity))

end Finite
end TidyRows
