import TidyRows.Proofs.Number.Again
import TidyRows.Proofs.Transform.Casing
import TidyRows.Proofs.Transform.Numeric
namespace TidyRows

namespace Value
variable {d : Double} {w x : Finite}

theorem ofComputed_finite (number : (ofComputed d).number?.isSome = true) : ∃ x, d = .finite x := by
  cases finite : d.isFinite with
  | true => exact Double.isFinite_iff.mp finite
  | false =>
    rw [ofComputed_null finite] at number
    cases number

theorem wholeLimit_lt (small : Double.lt (.finite w.abs) wholeLimit = true) : w.units < 9000000000000000 * unitsPerOne := by
  obtain ⟨y, limit, positive, units⟩ := Double.ofRatio_whole false (n := 9000000000000000) (by decide)
  rw [show wholeLimit = .finite y from limit] at small
  have compared : Double.lt (.finite w.abs) (.finite y) = !decide (y.signedUnits ≤ w.abs.signedUnits) := rfl
  rw [compared, Double.signedUnits_unsigned positive, Double.signedUnits_unsigned rfl, Bool.not_eq_true', decide_eq_false_iff_not,
    not_le, Nat.cast_lt] at small
  rw [← units]
  exact small

-- A number that was computed is computed from the number that it is.
theorem ofComputed_again (found : (ofComputed (.finite w)).number? = some (.finite x)) :
    x.rank = w.rank ∧ ofComputed (.finite x) = ofComputed (.finite w) := by
  cases whole : w.isWhole && Double.lt (.finite w.abs) wholeLimit with
  | false =>
    have real : ofComputed (.finite w) = .real w := if_neg (by simp [whole])
    rw [real] at found
    cases found
    exact ⟨rfl, rfl⟩
  | true =>
    obtain ⟨fraction, small⟩ := Bool.and_eq_true_iff.mp whole
    have computed : ofComputed (.finite w) = ofInt w.truncated := if_pos whole
    have count := w.truncated_natAbs
    have few : w.truncated.natAbs < 9000000000000000 := by
      rw [count, Nat.div_lt_iff_lt_mul Double.unitsPerOne_positive]
      exact wholeLimit_lt small
    have range : Whole.ofInt? w.truncated = some ⟨w.truncated, by omega, by omega⟩ := dif_pos ⟨by omega, by omega⟩
    obtain ⟨y, known, sign, units⟩ := Double.ofRatio_whole (decide (w.truncated < 0)) (n := w.truncated.natAbs) (by omega)
    rw [computed, ofInt, range] at found
    have same : Double.finite y = .finite x := known.symm.trans (Option.some.inj found)
    cases same
    have equal : x.units = w.units := by
      rw [units, count, Nat.div_mul_cancel (Nat.dvd_of_mod_eq_zero (beq_iff_eq.mp fraction))]
    have rank : x.rank = w.rank := Fin.ext (unitsOfRank_strictMono.injective equal)
    have truncated : x.truncated = w.truncated := by
      have signed : x.truncated = if x.negative then -((x.units / unitsPerOne : Nat) : Int) else (x.units / unitsPerOne : Nat) := rfl
      rw [signed, sign, equal, ← count]
      simp only [decide_eq_true_eq]
      split <;> omega
    have again : (x.isWhole && Double.lt (.finite x.abs) wholeLimit) = true := by
      rw [← whole]
      unfold Finite.isWhole Finite.abs
      rw [equal, rank]
    refine ⟨rank, ?_⟩
    rw [computed, ← truncated]
    exact if_pos again

end Value

namespace Finite
variable {x : Finite}

theorem magnitude_abs (x : Finite) : x.magnitude = |x.value| := by
  have some : 0 ≤ x.magnitude := div_nonneg (Nat.cast_nonneg _) (le_of_lt Double.ones_positive)
  have same := signed_same x.negative x.magnitude 0
  rw [signed_zero, sub_zero, sub_zero, abs_of_nonneg some] at same
  rw [value_signed]
  exact same.symm

theorem one_lt_iff : Double.lt .one (.finite x) = true ↔ 1 < x.value := by
  have ones : Finite.one.signedUnits = unitsPerOne := by decide
  have compared : Double.lt .one (.finite x) = !decide (x.signedUnits ≤ Finite.one.signedUnits) := rfl
  rw [compared, ones, Bool.not_eq_true', decide_eq_false_iff_not, not_le]
  unfold value
  rw [lt_div_iff₀ Double.ones_positive, one_mul]
  exact_mod_cast Iff.rfl

end Finite

namespace Transform
variable {options : TransformOptions} {row : Row} {v : Value} {x : Finite}

theorem percentageOf_number (locale : Option String) {d : Double} (number : v.number? = some d) :
    percentageOf locale v = some d ∧ hasPercentSign v = false := by
  cases v with
  | whole n => exact ⟨number, rfl⟩
  | real x => exact ⟨number, rfl⟩
  | null => cases number
  | bool b => cases number
  | text s => cases number
  | list vs => cases number
  | record fields => cases number

theorem percentageOf_none (other : percentageOf locale v = none) : v.number? = none := by
  cases number : v.number? with
  | none => rfl
  | some d =>
    rw [(percentageOf_number locale number).1] at other
    cases other

theorem shareOf_number (number : v.number? = some (.finite x)) :
    shareOf v (.finite x) = if 1 < x.value then .finite x / .ofNat 100 else .finite x := by
  unfold shareOf
  rw [(percentageOf_number .none number).2, Bool.false_or]
  exact if_congr Finite.one_lt_iff rfl rfl

-- A number that was made of a percentage is what a share was rounded to.
theorem normalizePercentage_source (number : (normalizePercentage options v).number? = some (.finite x)) :
    ∃ s w : Finite, normalizePercentage options v = .ofComputed (.finite w) ∧
      (Double.finite s).roundPlaces sharePlaces = .finite w := by
  cases found : percentageOf options.locale v with
  | none =>
    have same : normalizePercentage options v = v := by
      unfold normalizePercentage
      rw [found]
    rw [same, percentageOf_none found] at number
    cases number
  | some d =>
    obtain ⟨s, share⟩ := Double.isFinite_iff.mp (shareOf_finite (v := v) (percentageOf_finite found))
    rw [normalizePercentage_share found, share] at number ⊢
    obtain ⟨w, rounded⟩ := Value.ofComputed_finite (Option.isSome_of_eq_some number)
    exact ⟨s, w, congrArg Value.ofComputed rounded, rounded⟩

theorem hundredth_le {s : Finite} (share : Double.finite x / .ofNat 100 = .finite s) : s.magnitude ≤ x.magnitude / 50 := by
  obtain ⟨y, hundred, _, units⟩ := Double.ofRatio_whole false (n := 100) (by decide)
  have ones := Double.ones_positive
  have some : 0 < y.units := by
    rw [units]
    exact Nat.mul_pos (by decide) Double.unitsPerOne_positive
  rw [Double.ofNat, hundred, Double.div_finite some] at share
  have most := Double.ofRatio_le some share
  have hundredth : (x.units : ℚ) / y.units = x.magnitude / 100 := by
    rw [units]
    unfold Finite.magnitude Finite.units
    push_cast
    field_simp
  rw [hundredth] at most
  linarith

section
variable (number : v.number? = some (.finite x))
include number

theorem normalizePercentage_low (options : TransformOptions) (low : x.value ≤ 1) :
    normalizePercentage options v = .ofComputed ((Double.finite x).roundPlaces sharePlaces) := by
  rw [normalizePercentage_share (percentageOf_number _ number).1, shareOf_number number, if_neg (not_lt.mpr low)]

-- What is above one is never the same once it is divided by a hundred, however it is rounded then.
theorem normalizePercentage_high (high : 1 < x.value) : normalizePercentage options v ≠ v := by
  intro same
  have share := shareOf_number number
  rw [if_pos high] at share
  obtain ⟨s, known⟩ := Double.isFinite_iff.mp (shareOf_finite (v := v) (d := .finite x) rfl)
  have again := normalizePercentage_share (percentageOf_number options.locale number).1
  rw [same, known] at again
  rw [again] at number
  obtain ⟨w, rounded⟩ := Value.ofComputed_finite (Option.isSome_of_eq_some number)
  rw [rounded] at number
  have rank := (Value.ofComputed_again number).1
  have less := hundredth_le (share.symm.trans known)
  have most := Double.roundPlaces_le (by decide) rounded
  have size : x.magnitude = x.value := x.magnitude_abs.trans (abs_of_pos (by linarith))
  have equal : w.magnitude = x.magnitude := by
    unfold Finite.magnitude
    rw [rank]
  have rest : (8 : ℚ) / 10 ^ sharePlaces < 9 / 25 := by norm_num [sharePlaces]
  linarith

end

-- A number that was made of a percentage is the same when it is made one again exactly if it is not above one. From the bound on
-- two roundings to ten places are not always one.
theorem fieldValue_percentage_stays [Libraries] (options : TransformOptions) (row : Row) (v : Value)
    (number : (fieldValue .normalizePercentage options row v).number? = some (.finite x)) (within : -8388608 < x.value) :
    Stays .normalizePercentage options row (fieldValue .normalizePercentage options row v) ↔ x.value ≤ 1 := by
  show normalizePercentage options (normalizePercentage options v) = normalizePercentage options v ↔ _
  change (normalizePercentage options v).number? = some (.finite x) at number
  constructor
  · intro same
    by_contra high
    exact normalizePercentage_high number (not_le.mp high) same
  · intro low
    obtain ⟨s, w, computed, rounded⟩ := normalizePercentage_source number
    have again := normalizePercentage_low number options low
    rw [computed] at number again ⊢
    obtain ⟨rank, same⟩ := Value.ofComputed_again number
    have small : x.magnitude < 2 ^ (23 : ℤ) := by
      rw [x.magnitude_abs, abs_lt]
      constructor <;> norm_num <;> linarith
    have kept : (Double.finite x).roundPlaces sharePlaces = .finite x := Double.roundPlaces_again rounded rank small
    rw [again, kept, same]

theorem not_stays_of_numbers [Libraries] {kind : TransformKind} {d e : Double} (before : v.number? = some d)
    (after : (fieldValue kind options row v).number? = some e) (apart : d ≠ e) : ¬Stays kind options row v := by
  intro same
  rw [same, before] at after
  exact apart (Option.some.inj after)

section
open Bare

theorem fieldValue_percentage_share :
    (∃ x : Finite, (fieldValue .normalizePercentage .none .empty (.text "45%")).number? = some (.finite x) ∧ x.value ≤ 1 ∧
      -8388608 < x.value) ∧
      Stays .normalizePercentage .none .empty (fieldValue .normalizePercentage .none .empty (.text "45%")) := by
  obtain ⟨x, number, unsigned, low⟩ : ∃ x : Finite,
      (fieldValue .normalizePercentage .none .empty (.text "45%")).number? = some (.finite x) ∧ x.negative = false ∧
        Double.lt .one (.finite x) = false :=
    ⟨⟨false, 0x3FDCCCCCCCCCCCCD, by decide⟩, by decide +kernel, rfl, rfl⟩
  have most : x.value ≤ 1 := not_lt.mp fun high => Bool.false_ne_true (low.symm.trans (Finite.one_lt_iff.mpr high))
  have within : -8388608 < x.value := by
    have some : 0 ≤ x.magnitude := div_nonneg (Nat.cast_nonneg _) (le_of_lt Double.ones_positive)
    rw [x.value_signed, unsigned]
    exact lt_of_lt_of_le (by norm_num) some
  exact ⟨⟨x, number, most, within⟩, (fieldValue_percentage_stays .none .empty (.text "45%") number within).mpr most⟩

-- One and a half, made of a hundred and fifty, is taken for one and a half of a hundred. And just below the bound a number
-- is moved by its last place each time.
theorem fieldValue_percentage_rescales :
    (let once := fieldValue .normalizePercentage .none .empty (.ofInt 150)
     once.number? = some (.finite ⟨false, 0x3FF8000000000000, by decide⟩) ∧
      (fieldValue .normalizePercentage .none .empty once).number? = some (.finite ⟨false, 0x3F8EB851EB851EB8, by decide⟩) ∧
        ¬Stays .normalizePercentage .none .empty once) ∧
    (let once := fieldValue .normalizePercentage .none .empty (.real ⟨true, 0x41600001CBAE2BD6, by decide⟩)
     once.number? = some (.finite ⟨true, 0x41600001CBAE2BD7, by decide⟩) ∧
      (fieldValue .normalizePercentage .none .empty once).number? = some (.finite ⟨true, 0x41600001CBAE2BD8, by decide⟩) ∧
        ¬Stays .normalizePercentage .none .empty once) := by
  constructor
  · intro once
    have first : once.number? = some (.finite ⟨false, 0x3FF8000000000000, by decide⟩) := by decide +kernel
    have second : (fieldValue .normalizePercentage .none .empty once).number? =
        some (.finite ⟨false, 0x3F8EB851EB851EB8, by decide⟩) := by decide +kernel
    exact ⟨first, second, not_stays_of_numbers first second (by decide)⟩
  · intro once
    have first : once.number? = some (.finite ⟨true, 0x41600001CBAE2BD7, by decide⟩) := by decide +kernel
    have second : (fieldValue .normalizePercentage .none .empty once).number? =
        some (.finite ⟨true, 0x41600001CBAE2BD8, by decide⟩) := by decide +kernel
    exact ⟨first, second, not_stays_of_numbers first second (by decide)⟩

end

end Transform
end TidyRows
