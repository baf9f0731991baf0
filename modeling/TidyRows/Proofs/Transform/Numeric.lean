import TidyRows.Proofs.Number.Rounding
import TidyRows.Proofs.Transform.Amounts
import TidyRows.Transform.Apply
namespace TidyRows

theorem Finite.truncated_natAbs (x : Finite) : x.truncated.natAbs = x.units / unitsPerOne := by
  unfold Finite.truncated
  dsimp only
  split
  · rw [Int.natAbs_neg]
    exact Int.natAbs_natCast _
  · exact Int.natAbs_natCast _

namespace Value
variable {d : Double} {n : Int}

-- A whole number in the range of binary numbers is a number, whatever range of its own it is in.
theorem ofInt_number (small : (n.natAbs : ℚ) < Double.limit) : (ofInt n).number?.isSome = true := by
  have finite : (Double.ofInt n).isFinite = true := by
    unfold Double.ofInt
    rw [Double.ofRatio_finite_iff Nat.one_pos, Nat.cast_one, div_one]
    exact small
  obtain ⟨x, value⟩ := Double.isFinite_iff.mp finite
  have number : (∃ w, ofInt n = .whole w) ∨ ofInt n = .real x := by
    unfold ofInt
    cases Whole.ofInt? n with
    | some w => exact .inl ⟨w, rfl⟩
    | none =>
      rw [value]
      exact .inr rfl
  rcases number with ⟨w, whole⟩ | real
  · simp only [whole, number?, Option.isSome_some]
  · simp only [real, number?, Option.isSome_some]

theorem ofComputed_number (finite : d.isFinite = true) : (ofComputed d).number?.isSome = true := by
  obtain ⟨x, rfl⟩ := Double.isFinite_iff.mp finite
  unfold ofComputed
  dsimp only
  split
  · obtain ⟨top, most, units⟩ := Double.units_le x
    have whole : x.truncated.natAbs ≤ top := by
      rw [x.truncated_natAbs]
      rw [Nat.mul_comm] at units
      exact Nat.div_le_of_le_mul units
    exact ofInt_number (lt_of_le_of_lt (Nat.cast_le.mpr whole) most)
  · rfl

theorem ofComputed_null (lost : d.isFinite = false) : ofComputed d = .null := by
  cases d with
  | nan => rfl
  | infinite s => rfl
  | finite x => cases lost

theorem number?_finite {v : Value} (found : v.number? = some d) : d.isFinite = true := by
  cases v with
  | whole n =>
    cases found
    obtain ⟨value, lower, upper⟩ := n
    have bits : value.natAbs ≤ 2 ^ 64 := by omega
    have small : (value.natAbs : ℚ) < Double.limit := by
      refine lt_of_le_of_lt (Nat.cast_le.mpr bits) (lt_of_lt_of_le ?_ (Double.power_le_limit (k := 65) (by decide)))
      norm_num
    unfold Double.ofInt
    rw [Double.ofRatio_finite_iff Nat.one_pos, Nat.cast_one, div_one]
    exact small
  | real x =>
    cases found
    rfl
  | null => cases found
  | bool b => cases found
  | text s => cases found
  | list vs => cases found
  | record fields => cases found

end Value

namespace Double

theorem neg_isFinite (d : Double) : d.neg.isFinite = d.isFinite := by
  cases d <;> rfl

theorem div_finite {x y : Finite} (some : 0 < y.units) :
    finite x / finite y = ofRatio (x.negative != y.negative) x.units y.units := by
  have nonzero : y.isZero = false := by
    unfold Finite.isZero
    rw [beq_eq_false_iff_ne]
    intro zero
    unfold Finite.units at some
    rw [zero, unitsOfRank_zero] at some
    exact Nat.lt_irrefl 0 some
  show (if y.isZero then _ else ofRatio (x.negative != y.negative) x.units y.units) = _
  rw [nonzero, if_neg Bool.false_ne_true]

theorem div_isFinite {x y : Finite} (least : unitsPerOne ≤ y.units) : (finite x / finite y).isFinite = true := by
  obtain ⟨top, most, units⟩ := units_le x
  have some : 0 < y.units := Nat.lt_of_lt_of_le unitsPerOne_positive least
  rw [div_finite some, ofRatio_finite_iff some]
  refine lt_of_le_of_lt ?_ most
  rw [div_le_iff₀ (Nat.cast_pos.mpr some)]
  rw [← Nat.cast_mul]
  exact Nat.cast_le.mpr (units.trans (Nat.mul_le_mul_left top least))

end Double

namespace Transform
variable {locale : Option String} {v : Value} {d : Double}

theorem readNumber_finite {text : List Char} (found : readNumber locale text = some d) : d.isFinite = true := by
  rw [readNumber_eq] at found
  obtain ⟨e, plain, rfl⟩ := Option.map_eq_some_iff.mp found
  have finite : e.isFinite = true := by
    unfold plainNumber? at plain
    split at plain
    · exact (Option.filter_eq_some_iff.mp plain).2
    · cases plain
  split
  · rw [Double.neg_isFinite]
    exact finite
  · exact finite

theorem numberOf_finite (found : numberOf locale v = some d) : d.isFinite = true := by
  unfold numberOf at found
  split at found
  · exact readNumber_finite found
  · exact Value.number?_finite found

theorem percentageOf_finite (found : percentageOf locale v = some d) : d.isFinite = true := by
  unfold percentageOf at found
  split at found
  · exact readNumber_finite found
  · exact Value.number?_finite found

def shareOf (v : Value) (d : Double) : Double :=
  if hasPercentSign v || Double.lt .one d then d / Double.ofNat 100 else d

theorem shareOf_finite (finite : d.isFinite = true) : (shareOf v d).isFinite = true := by
  unfold shareOf
  split
  · obtain ⟨x, rfl⟩ := Double.isFinite_iff.mp finite
    obtain ⟨y, hundred, _, units⟩ := Double.ofRatio_whole false (n := 100) (by decide)
    have least : unitsPerOne ≤ y.units :=
      (Nat.le_mul_of_pos_left unitsPerOne (Nat.succ_pos 99)).trans (Nat.le_of_eq units.symm)
    rw [Double.ofNat, hundred]
    exact Double.div_isFinite least
  · exact finite

structure Rounded (x : Finite) (places : Nat) (v : Value) : Prop where
  kept : x.Fits places → v.number?.isSome = true
  lost : ¬x.Fits places → v = .null

theorem rounded_places (x : Finite) (places : Nat) :
    Rounded x places (.ofComputed ((Double.finite x).roundPlaces places)) := by
  constructor
  · intro fits
    exact Value.ofComputed_number ((Double.roundPlaces_finite x places).mpr fits)
  · intro unfit
    refine Value.ofComputed_null (Bool.eq_false_iff.mpr fun finite => unfit ?_)
    exact (Double.roundPlaces_finite x places).mp finite

section
variable {options : TransformOptions}

theorem roundTo_rounded {x : Finite} (found : numberOf options.locale v = some (.finite x)) (places : Nat) :
    Rounded x places (roundTo places options v) := by
  unfold roundTo
  rw [found]
  dsimp only
  exact rounded_places x places

theorem normalizePercentage_share (found : percentageOf options.locale v = some d) :
    normalizePercentage options v = .ofComputed ((shareOf v d).roundPlaces sharePlaces) := by
  unfold normalizePercentage
  rw [found]
  rfl

theorem normalizePercentage_rounded {x : Finite} (found : percentageOf options.locale v = some d)
    (share : shareOf v d = .finite x) : Rounded x sharePlaces (normalizePercentage options v) := by
  rw [normalizePercentage_share found, share]
  exact rounded_places x sharePlaces

theorem parseNumber_number (found : numberOf options.locale v = some d) :
    (parseNumber options v).number?.isSome = true := by
  have finite := numberOf_finite found
  cases v with
  | text s =>
    have read : readNumber options.locale s.toList = some d := found
    unfold parseNumber
    dsimp only
    rw [read]
    exact Value.ofComputed_number finite
  | whole n =>
    have number : (Value.whole n).number? = some d := found
    exact Option.isSome_of_eq_some number
  | real x =>
    have number : (Value.real x).number? = some d := found
    exact Option.isSome_of_eq_some number
  | null => cases found
  | bool b => cases found
  | list vs => cases found
  | record fields => cases found

end

-- Whatever is read as a number is made a number of, and rounded to one unless it is too large for that.
theorem fieldValue_numeric [Libraries] (options : TransformOptions) (row : Row) (v : Value) :
    (∀ d, numberOf options.locale v = some d → ∃ x, d = .finite x ∧
      (fieldValue .numberParse options row v).number?.isSome = true ∧
      Rounded x ((options.precision.map (·.toNat)).getD defaultPlaces) (fieldValue .roundNumeric options row v) ∧
      Rounded x currencyPlaces (fieldValue .roundToCurrency options row v)) ∧
    (∀ d, percentageOf options.locale v = some d → ∃ x, shareOf v d = .finite x ∧
      Rounded x sharePlaces (fieldValue .normalizePercentage options row v)) ∧
    ∀ x : Finite, x.magnitude < 2 ^ 983 → ∀ places, x.Fits places := by
  refine ⟨?_, ?_, fun x small places => Finite.fits_of_small small places⟩
  · intro d found
    obtain ⟨x, rfl⟩ := Double.isFinite_iff.mp (numberOf_finite found)
    exact ⟨x, rfl, parseNumber_number found, roundTo_rounded found _, roundTo_rounded found currencyPlaces⟩
  · intro d found
    obtain ⟨x, share⟩ := Double.isFinite_iff.mp (shareOf_finite (v := v) (percentageOf_finite found))
    exact ⟨x, share, normalizePercentage_rounded found share⟩

section
open Bare

theorem fieldValue_numeric_thousand :
    (fieldValue .roundNumeric .none .empty (.real (Finite.power 10 (by decide)))).number?.isSome = true := by
  have read : numberOf TransformOptions.none.locale (.real (Finite.power 10 (by decide))) =
      some (.finite (Finite.power 10 (by decide))) := rfl
  obtain ⟨numbers, _, small⟩ := fieldValue_numeric .none .empty (.real (Finite.power 10 (by decide)))
  obtain ⟨x, same, _, rounded, _⟩ := numbers _ read
  cases same
  refine rounded.kept (small _ ?_ _)
  rw [Finite.power_magnitude]
  exact pow_lt_pow_right₀ one_lt_two (by decide)

-- `2 ^ 1023` is a number, and rounding to two places loses it.
theorem roundNumeric_lost : ∃ x : Finite, numberOf none (.real x) = some (.finite x) ∧ x.value = 2 ^ 1023 ∧
    fieldValue .roundNumeric .none .empty (.real x) = .null := by
  refine ⟨Finite.power 1023 (by decide), rfl, ?_, ?_⟩
  · exact Finite.power_magnitude 1023 (by decide)
  · have rounded (x : Finite) : Rounded x defaultPlaces (fieldValue .roundNumeric .none .empty (.real x)) :=
      roundTo_rounded (rfl : numberOf TransformOptions.none.locale (.real x) = some (.finite x)) defaultPlaces
    refine (rounded _).lost (Finite.unfit_of_large (k := 1022) (by decide) ?_ ?_)
    · rw [Finite.power_magnitude]
      exact pow_lt_pow_right₀ one_lt_two (by decide)
    · have places : (10 : ℚ) ^ min defaultPlaces Double.maxPlaces = 100 := by norm_num [defaultPlaces, Double.maxPlaces]
      have step : (2 : ℚ) ^ 1024 = 2 ^ 1022 * 4 := by rw [show (4 : ℚ) = 2 ^ 2 by norm_num, ← pow_add]
      rw [places]
      calc Double.limit ≤ 2 ^ 1024 := sub_le_self _ (by positivity)
        _ = 2 ^ 1022 * 4 := step
        _ ≤ 2 ^ 1022 * 100 := mul_le_mul_of_nonneg_left (by norm_num) (by positivity)

end

end Transform
end TidyRows
