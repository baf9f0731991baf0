import TidyRows.Proofs.Number.Written
import TidyRows.Toml.Written
namespace TidyRows
namespace Shortest

-- A whole decimal within the interval of a number is the number itself: a number with a fraction has its next ones
-- closer than halfway to a whole one.
theorem whole_of_holds {r n : Nat} (nonzero : 0 < r)
    (holds : (Interval.ofRank r).holds (n * (2 * unitsPerOne)) 1 = true) : unitsOfRank r % unitsPerOne = 0 := by
  obtain ⟨s, m, rfl, most, least⟩ := rank_parts r
  obtain ⟨ones, size, power⟩ := unitsPerOne_power
  have here : unitsOfRank (s * binade + m) = m * 2 ^ s := unitsOfRank_parts (Nat.le_of_lt most) least
  obtain ⟨low, high, _⟩ := holds_bounds holds
  rw [power, here]
  by_cases coarse : ones ≤ s
  · exact Nat.mod_eq_zero_of_dvd (Dvd.dvd.mul_left (pow_dvd_pow 2 coarse) m)
  · obtain ⟨k, rfl⟩ : ∃ k, ones = s + k := ⟨ones - s, by omega⟩
    obtain ⟨gap, _, before, after, _⟩ := unitsOfRank_gaps nonzero
    have next := unitsOfRank_succ most least
    have place := Nat.two_pow_pos s
    have lower : m * 2 ^ s + m * 2 ^ s ≤ n * (2 * (2 ^ s * 2 ^ k)) + 2 ^ s := by
      rw [Nat.mul_one, power, pow_add] at low
      change unitsOfRank (s * binade + m - 1) + unitsOfRank (s * binade + m) ≤ _ at low
      rw [here] at low before after
      rw [next] at after
      linarith
    have upper : n * (2 * (2 ^ s * 2 ^ k)) ≤ m * 2 ^ s + m * 2 ^ s + 2 ^ s := by
      rw [Nat.mul_one, power, pow_add] at high
      change _ ≤ unitsOfRank (s * binade + m) + unitsOfRank (s * binade + m + 1) at high
      rw [here, next] at high
      linarith
    have closest : m = n * 2 ^ k := by
      have above : 2 * m ≤ 2 * (n * 2 ^ k) + 1 := Nat.le_of_mul_le_mul_right (c := 2 ^ s) (by linarith) place
      have below : 2 * (n * 2 ^ k) ≤ 2 * m + 1 := Nat.le_of_mul_le_mul_right (c := 2 ^ s) (by linarith) place
      omega
    rw [closest]
    exact Nat.mod_eq_zero_of_dvd ⟨n, by ring⟩

theorem leading_of_reached {r : Nat} {e : Int} (least : unitsPerOne ≤ unitsOfRank r) (reached : reaches r e = true)
    (small : e ≤ 1) : e < leadingExponent r := by
  obtain ⟨ones, size, power⟩ := unitsPerOne_power
  have some : unitsOfRank r ≠ 0 := Nat.ne_of_gt (Nat.lt_of_lt_of_le (power ▸ Nat.two_pow_pos ones) least)
  have bits : ones ≤ Nat.log2 (unitsOfRank r) := (Nat.le_log2 some).mpr (power ▸ least)
  exact lt_leadingExponent reached (by omega)

section
variable {r : Nat} (nonzero : 0 < r) (whole : unitsOfRank r % unitsPerOne = 0)
include nonzero whole

theorem whole_count : ∃ w, 0 < w ∧ unitsOfRank r = w * unitsPerOne := by
  obtain ⟨w, parts⟩ := Nat.dvd_of_mod_eq_zero whole
  refine ⟨w, Nat.pos_of_ne_zero ?_, parts.trans (Nat.mul_comm _ _)⟩
  rintro rfl
  exact absurd parts (Nat.ne_of_gt (unitsOfRank_positive nonzero))

theorem leading_of_whole : 0 < leadingExponent r := by
  obtain ⟨w, some, parts⟩ := whole_count nonzero whole
  have least : unitsPerOne ≤ unitsOfRank r := parts ▸ Nat.le_mul_of_pos_left _ some
  refine leading_of_reached least ?_ (by decide)
  rw [reaches_iff, zpow_zero, one_mul]
  exact_mod_cast least

-- The search comes to the grid of the whole numbers, which the number itself is on, before any finer one.
theorem shortestDecimal_whole (tie : Tie) (known : r < rankCount) :
    ∃ n e, shortestDecimal tie r = .ofScaled n e ∧ n ≠ 0 ∧ 0 ≤ e := by
  obtain ⟨w, some, parts⟩ := whole_count nonzero whole
  obtain ⟨gap, positive, before, after, _⟩ := unitsOfRank_gaps nonzero
  have value : w * (gridStep 0).1 = 2 * unitsOfRank r := by
    rw [parts, show gridStep 0 = (1 * (2 * unitsPerOne), 1) from rfl]
    ring
  refine shortestDecimal_grid tie nonzero known (Nat.ne_of_gt some) ?_ (leading_of_whole nonzero whole)
  rw [value]
  refine holds_of_strict ?_ ?_
  · show (unitsOfRank (r - 1) + unitsOfRank r) * 1 < _
    omega
  · show _ < (unitsOfRank r + unitsOfRank (r + 1)) * 1
    omega

end

end Shortest

section
variable {n : Nat} (some : n ≠ 0) (e : Int)
include some

theorem digits_of_scaled : (Decimal.ofScaled n e).digits.isEmpty = false := by
  obtain ⟨ds, c, rest, z, text, _, _, _, scaled⟩ := ofScaled_text some e
  rw [scaled]
  have count := count_of_text text
  cases ds with
  | nil => cases count
  | cons _ _ => rfl

-- The digits reach behind the point as far as the last of them that is not a zero does.
theorem fraction_of_scaled : ∃ z digits : Nat, n = 10 ^ z * digits ∧
    ((Decimal.ofScaled n e).positional.2 = [] ↔ 0 ≤ e + z) := by
  obtain ⟨ds, c, rest, z, text, _, _, digits, scaled⟩ := ofScaled_text some e
  refine ⟨z, digitsValue 0 (c :: rest), ?_, ?_⟩
  · rw [← digitsValue_zeros, ← digitsValue_append, ← digits, digitsValue_natText]
  · rw [scaled]
    have count := count_of_text text
    unfold Decimal.positional
    dsimp only
    split
    · have front : List.replicate (e + (rest.length + 1 + z)).natAbs '0' ++ digitText ds ≠ [] := by
        rw [text]
        exact List.append_ne_nil_of_right_ne_nil _ (List.cons_ne_nil _ _)
      exact ⟨fun none => absurd none front, fun _ => by omega⟩
    · rw [drop_text text, List.drop_eq_nil_iff, List.length_cons]
      omega

end
namespace Decimal

-- The numeral of a decimal that is written without exponent. It has a digit behind the point.
def plainNumeral (d : Decimal) : Numeral :=
  if d.digits.isEmpty then ⟨['0'], ['0'], none⟩
  else ⟨d.positional.1, if d.positional.2.isEmpty then ['0'] else d.positional.2, none⟩

end Decimal

theorem plainNumeral_layout {ds : List Nat} {c : Char} {rest : List Char} (text : digitText ds = c :: rest) (lead : c ≠ '0')
    (all : ∀ d ∈ c :: rest, isDigit d = true) (p : Int) :
    (Decimal.mk ds p).plainNumeral.Tells (digitsValue 0 (c :: rest)) (p - (rest.length + 1)) := by
  have some : ds ≠ [] := by
    rintro rfl
    cases text
  unfold Decimal.plainNumeral
  rw [if_neg (by simpa using some)]
  exact positional_tells text lead all p

theorem plainNumeral_reads (x : Finite) : (shortestDecimal .up x.rank).plainNumeral.Reads x :=
  layout_reads plainNumeral_layout .up rfl x

open Shortest in
theorem whole_of_fraction {r : Nat} (nonzero : 0 < r) (known : r < rankCount) {tie : Tie}
    (none : (shortestDecimal tie r).positional.2 = []) : unitsOfRank r % unitsPerOne = 0 := by
  obtain ⟨n, e, shortest, some, holds⟩ := shortestDecimal_found tie nonzero known
  obtain ⟨z, digits, value, fraction⟩ := fraction_of_scaled some e
  rw [shortest] at none
  obtain ⟨k, power⟩ := Int.eq_ofNat_of_zero_le (fraction.mp none)
  have same : (n : ℚ) * 10 ^ e = (digits * 10 ^ k : Nat) * 10 ^ (0 : ℤ) := by
    rw [value, show e = k - z by omega, zpow_sub₀ (by norm_num), zpow_natCast, zpow_natCast]
    push_cast
    field_simp
  rw [holds_decimal same] at holds
  exact whole_of_holds nonzero (n := digits * 10 ^ k) (by simpa [gridStep, tenPower] using holds)

open Shortest in
theorem fraction_of_whole {r : Nat} (nonzero : 0 < r) (known : r < rankCount) {tie : Tie}
    (whole : unitsOfRank r % unitsPerOne = 0) : (shortestDecimal tie r).positional.2 = [] := by
  obtain ⟨n, e, shortest, some, coarse⟩ := shortestDecimal_whole nonzero whole tie known
  obtain ⟨z, _, _, fraction⟩ := fraction_of_scaled some e
  rw [shortest]
  exact fraction.mpr (by omega)

-- A whole number gets the zero behind its point that the numeral of its digits has.
theorem realChars_finite (x : Finite) :
    Toml.realChars (.finite x) = signText x.negative ++ (shortestDecimal .up x.rank).plainNumeral.text := by
  unfold Toml.realChars Finite.plainText Decimal.plainNumeral
  obtain ⟨negative, r, known⟩ := x
  dsimp only
  rcases Nat.eq_zero_or_pos r with rfl | nonzero
  · have whole : (Finite.mk negative ⟨0, known⟩).isWhole = true := by
      show (unitsOfRank 0 % unitsPerOne == 0) = true
      rw [show unitsOfRank 0 = 0 from rfl, Nat.zero_mod]
      rfl
    rw [whole, show shortestDecimal .up 0 = .zero from rfl]
    simp [Decimal.zero, Numeral.text, Numeral.fractionText, Numeral.exponentText]
  · obtain ⟨n, e, shortest, some, _⟩ := shortestDecimal_found .up nonzero known
    have digits : (shortestDecimal .up r).digits.isEmpty = false := shortest ▸ digits_of_scaled some e
    rw [digits]
    by_cases whole : unitsOfRank r % unitsPerOne = 0
    · have isWhole : (Finite.mk negative ⟨r, known⟩).isWhole = true := beq_iff_eq.mpr whole
      rw [isWhole, fraction_of_whole nonzero known whole]
      simp [Numeral.text, Numeral.fractionText, Numeral.exponentText]
    · have isWhole : (Finite.mk negative ⟨r, known⟩).isWhole = false := beq_eq_false_iff_ne.mpr whole
      have fraction : (shortestDecimal .up r).positional.2 ≠ [] := fun none =>
        whole (whole_of_fraction nonzero known none)
      rw [isWhole]
      cases parts : (shortestDecimal .up r).positional.2 with
      | nil => exact absurd parts fraction
      | cons c more => simp [Numeral.text, Numeral.fractionText, Numeral.exponentText]

end TidyRows
