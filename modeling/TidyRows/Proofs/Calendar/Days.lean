import Mathlib
import TidyRows.Calendar.Moment
import TidyRows.Calendar.Parts
import TidyRows.Libraries
namespace TidyRows
open Date

def Date.Valid (d : Date) : Prop := ofParts? d.year d.month d.day = some d

section
variable {ls : List Nat} {m n : Nat}

-- A count that the lengths add up to falls into one of them.
theorem splitOrdinal_inside (start : 1 ≤ n) (most : n ≤ ls.sum) : ∃ i l d, ls[i]? = some l ∧ 1 ≤ d ∧ d ≤ l ∧
    n = (ls.take i).sum + d ∧ splitOrdinal ls m n = (m + i, d) := by
  induction ls generalizing m n with
  | nil =>
    rw [List.sum_nil] at most
    omega
  | cons l rest ih =>
    rw [List.sum_cons] at most
    unfold splitOrdinal
    by_cases first : n ≤ l
    · rw [if_pos first]
      exact ⟨0, l, n, rfl, start, first, by simp, rfl⟩
    · obtain ⟨i, k, d, found, least, within, parts, split⟩ := ih (m := m + 1) (n := n - l) (by omega) (by omega)
      rw [if_neg first, split]
      refine ⟨i + 1, k, d, found, least, within, ?_, by rw [Nat.add_assoc, Nat.add_comm 1 i]⟩
      rw [List.take_succ_cons, List.sum_cons]
      omega

theorem splitOrdinal_of {i l d : Nat} (found : ls[i]? = some l) (least : 1 ≤ d) (within : d ≤ l) :
    splitOrdinal ls m ((ls.take i).sum + d) = (m + i, d) := by
  induction ls generalizing m i with
  | nil => cases found
  | cons k rest ih =>
    unfold splitOrdinal
    cases i with
    | zero =>
      cases found
      rw [List.take_zero, List.sum_nil, Nat.zero_add, if_pos within]
      rfl
    | succ i =>
      rw [List.take_succ_cons, List.sum_cons, if_neg (by omega),
        show k + (rest.take i).sum + d - k = (rest.take i).sum + d by omega, ih found, Nat.add_assoc, Nat.add_comm 1 i]

theorem take_sum_le {i l : Nat} (found : ls[i]? = some l) : (ls.take i).sum + l ≤ ls.sum := by
  induction ls generalizing i with
  | nil => cases found
  | cons k rest ih =>
    cases i with
    | zero =>
      cases found
      simp
    | succ i =>
      have := ih found
      rw [List.take_succ_cons, List.sum_cons, List.sum_cons]
      omega

end

namespace Date
variable {d : Date} {y : Int} {n : Nat}

theorem monthLengths_count (y : Int) : (monthLengths y).length = 12 := rfl

theorem monthLengths_sum (y : Int) : (monthLengths y).sum = yearLength y := by
  unfold monthLengths yearLength
  cases isLeap y <;> rfl

theorem daysBefore_eq (y : Int) (m : Nat) : daysBefore y m = ((monthLengths y).take (m - 1)).sum :=
  List.sum_eq_foldl.symm

theorem valid_iff : d.Valid ↔
    minYear ≤ d.year ∧ d.year ≤ maxYear ∧ 1 ≤ d.month ∧ d.month ≤ 12 ∧ 1 ≤ d.day ∧ d.day ≤ monthLength d.year d.month := by
  unfold Valid ofParts?
  split
  · rename_i inside
    exact iff_of_true rfl inside
  · rename_i outside
    exact iff_of_false nofun outside

theorem ofParts?_valid {m k : Nat} (found : ofParts? y m k = some d) : d.Valid := by
  unfold ofParts? at found
  split at found
  · rename_i inside
    cases found
    exact valid_iff.mpr inside
  · cases found

theorem ofOrdinal?_valid (found : ofOrdinal? y n = some d) : d.Valid := by
  unfold ofOrdinal? at found
  split at found
  · rename_i inside
    obtain ⟨early, late, start, most⟩ := inside
    have most : n ≤ (monthLengths y).sum := monthLengths_sum y ▸ most
    obtain ⟨i, l, k, month, least, within, parts, split⟩ := splitOrdinal_inside (m := 1) start most
    have place : i < 12 := monthLengths_count y ▸ (List.getElem?_eq_some_iff.mp month).1
    rw [split] at found
    cases found
    refine valid_iff.mpr ⟨early, late, ?_, ?_, least, ?_⟩
    · show 1 ≤ 1 + i
      omega
    · show 1 + i ≤ 12
      omega
    · show k ≤ monthLength y (1 + i)
      unfold monthLength
      rw [Nat.add_sub_cancel_left, month]
      exact within
  · cases found

theorem ofOrdinal?_ordinal (valid : d.Valid) : ofOrdinal? d.year d.ordinal = some d := by
  obtain ⟨early, late, first, last, least, within⟩ := valid_iff.mp valid
  obtain ⟨l, month⟩ : ∃ l, (monthLengths d.year)[d.month - 1]? = some l :=
    ⟨_, List.getElem?_eq_getElem (by rw [monthLengths_count]; omega)⟩
  have short : d.day ≤ l := by
    unfold monthLength at within
    rwa [month] at within
  have ordinal : d.ordinal = ((monthLengths d.year).take (d.month - 1)).sum + d.day := by
    rw [Date.ordinal, daysBefore_eq]
  have place := splitOrdinal_of (m := 1) month least short
  rw [← ordinal] at place
  have most : d.ordinal ≤ yearLength d.year := by
    rw [ordinal, ← monthLengths_sum]
    exact (Nat.add_le_add_left short _).trans (take_sum_le month)
  unfold ofOrdinal?
  rw [if_pos ⟨early, late, by omega, most⟩, place, Nat.add_sub_cancel' first]

theorem daysBeforeYear_succ (y : Int) : daysBeforeYear (y + 1) = daysBeforeYear y + yearLength y := by
  unfold daysBeforeYear yearLength
  cases leap : isLeap y with
  | true =>
    have known : y % 4 = 0 ∧ (y % 100 ≠ 0 ∨ y % 400 = 0) := by simpa [isLeap] using leap
    simp only [if_true]
    omega
  | false =>
    have known : y % 4 = 0 → y % 100 = 0 ∧ y % 400 ≠ 0 := by simpa [isLeap] using leap
    simp only [Bool.false_eq_true, if_false]
    omega

theorem daysBeforeYear_mono : Monotone daysBeforeYear := by
  refine monotone_int_of_le_succ fun y => ?_
  rw [daysBeforeYear_succ]
  omega

theorem yearOf_inside {y n : Int} (low : daysBeforeYear y ≤ n) (high : n < daysBeforeYear (y + 1)) : yearOf n = y := by
  have near : y - 1 ≤ n * 400 / 146097 + 1 ∧ n * 400 / 146097 + 1 ≤ y + 1 := by
    unfold daysBeforeYear at low high
    dsimp only at low high
    omega
  unfold yearOf
  dsimp only
  generalize n * 400 / 146097 + 1 = guess at near
  split
  · rename_i late
    by_contra other
    have := daysBeforeYear_mono (show guess ≤ y by omega)
    omega
  · rename_i reached
    split
    · rename_i early
      by_contra other
      have := daysBeforeYear_mono (show y + 1 ≤ guess + 1 by omega)
      omega
    · rename_i within
      by_contra other
      rcases Int.lt_or_gt_of_ne other with before | after
      · have := daysBeforeYear_mono (show guess + 1 ≤ y by omega)
        omega
      · have := daysBeforeYear_mono (show y + 1 ≤ guess by omega)
        omega

theorem ordinal_bounds (valid : d.Valid) : 1 ≤ d.ordinal ∧ d.ordinal ≤ yearLength d.year := by
  have found := ofOrdinal?_ordinal valid
  unfold ofOrdinal? at found
  split at found
  · rename_i inside
    exact ⟨inside.2.2.1, inside.2.2.2⟩
  · cases found

theorem ofDayNumber?_dayNumber (valid : d.Valid) : ofDayNumber? d.dayNumber = some d := by
  obtain ⟨first, last⟩ := ordinal_bounds valid
  have next := daysBeforeYear_succ d.year
  have count : d.dayNumber + epoch = daysBeforeYear d.year + (d.ordinal - 1) := by
    unfold dayNumber
    omega
  have year : yearOf (d.dayNumber + epoch) = d.year := by
    rw [count]
    exact yearOf_inside (by omega) (by omega)
  have ordinal : (d.dayNumber + epoch - daysBeforeYear d.year + 1).toNat = d.ordinal := by
    rw [count]
    omega
  unfold ofDayNumber?
  dsimp only
  rw [year, ordinal]
  exact ofOrdinal?_ordinal valid

theorem ofDayNumber?_valid {n : Int} (found : ofDayNumber? n = some d) : d.Valid := ofOrdinal?_valid found

theorem ofWeek?_valid {week day start : Nat} (found : ofWeek? y week day start = some d) : d.Valid := by
  unfold ofWeek? at found
  dsimp only at found
  split at found
  · split at found
    · exact ofOrdinal?_valid found
    · cases found
  · cases found

theorem ofIsoWeek?_valid {week day : Nat} (found : ofIsoWeek? y week day = some d) : d.Valid := by
  unfold ofIsoWeek? at found
  dsimp only at found
  split at found
  · exact ofDayNumber?_valid found
  · cases found

end Date

-- A moment of the calendar. There may be a leap second in any minute.
structure Moment.Sound (m : Moment) : Prop where
  date : m.date.Valid
  hour : m.clock.hour < 24
  minute : m.clock.minute < 60
  second : m.clock.second ≤ 60

namespace Moment
variable {m moved : Moment}

theorem shift?_sound {seconds : Int} (found : m.shift? seconds = some moved) : moved.Sound := by
  unfold shift? ofTimestamp? at found
  obtain ⟨told, day, rfl⟩ := Option.map_eq_some_iff.mp found
  obtain ⟨d, number, rfl⟩ := Option.map_eq_some_iff.mp day
  generalize m.timestamp + seconds = t
  refine ⟨Date.ofDayNumber?_valid number, ?_, ?_, ?_⟩
  · show (t % 86400).toNat / 3600 < 24
    omega
  · show (t % 86400).toNat / 60 % 60 < 60
    omega
  · show (if m.clock.second = 60 then (t % 86400).toNat % 60 + 1 else (t % 86400).toNat % 60) ≤ 60
    split <;> omega

-- A leap second counts as the one before it, and is put back.
theorem ofSeconds_seconds {c : Clock} (minute : c.minute < 60) (second : c.second ≤ 60) :
    (Clock.ofSeconds c.seconds).hour = c.hour ∧ (Clock.ofSeconds c.seconds).minute = c.minute ∧
      (if c.second = 60 then (Clock.ofSeconds c.seconds).second + 1 else (Clock.ofSeconds c.seconds).second) =
        c.second := by
  unfold Clock.ofSeconds Clock.seconds
  dsimp only
  refine ⟨by omega, by omega, ?_⟩
  split <;> omega

theorem shift?_zero (sound : m.Sound) : m.shift? 0 = some m := by
  obtain ⟨d, c⟩ := m
  obtain ⟨valid, hour, minute, second⟩ := sound
  dsimp only at valid hour minute second
  have seconds : c.seconds < 86400 := by
    unfold Clock.seconds
    omega
  have day : (86400 * d.dayNumber + c.seconds) / 86400 = d.dayNumber := by omega
  have time : ((86400 * d.dayNumber + c.seconds) % 86400).toNat = c.seconds := by omega
  obtain ⟨own, next, last⟩ := ofSeconds_seconds minute second
  unfold shift? ofTimestamp? timestamp
  simp only [Int.add_zero, day, time, Date.ofDayNumber?_dayNumber valid, Option.map_some, own, next, last]

end Moment

theorem Offsets.universal?_sound {offsets : Offsets} {m moved : Moment} (found : offsets.universal? m = some moved) :
    moved.Sound := by
  cases offsets with
  | skipped => cases found
  | once seconds => exact Moment.shift?_sound found
  | twice earlier later =>
    obtain ⟨first, shifted, found⟩ := Option.bind_eq_some_iff.mp found
    obtain ⟨_, _, same⟩ := Option.bind_eq_some_iff.mp found
    cases same
    exact Moment.shift?_sound shifted

namespace Calendar.Parts
variable {p : Parts} {d : Date}

theorem possible_valid {o : Option Date} (each : ∀ e, o = some e → e.Valid) (found : possible o = .ok d) : d.Valid := by
  cases o with
  | none => cases found
  | some e =>
    cases found
    exact each d rfl

theorem candidate_valid {year isoYear : Option Int} (found : p.candidate year isoYear = .ok d) : d.Valid := by
  unfold candidate at found
  split at found
  · exact possible_valid (fun _ => Date.ofParts?_valid) found
  · split at found
    · exact possible_valid (fun _ => Date.ofOrdinal?_valid) found
    · split at found
      · exact possible_valid (fun _ => Date.ofWeek?_valid) found
      · split at found
        · exact possible_valid (fun _ => Date.ofWeek?_valid) found
        · split at found
          · exact possible_valid (fun _ => Date.ofIsoWeek?_valid) found
          · cases found

theorem bind_ok {ε α β : Type} {x : Except ε α} {f : α → Except ε β} {b : β} (found : (x >>= f) = .ok b) :
    ∃ a, x = .ok a ∧ f a = .ok b := by
  cases x with
  | error e => cases found
  | ok a => exact ⟨a, rfl, found⟩

theorem date_valid (found : p.date = .ok d) : d.Valid := by
  obtain ⟨year, _, found⟩ := bind_ok found
  obtain ⟨isoYear, _, found⟩ := bind_ok found
  obtain ⟨e, made, found⟩ := bind_ok found
  split at found
  · cases found
    exact candidate_valid made
  · cases found

theorem date?_valid (found : p.date? = some d) : d.Valid := by
  unfold date? at found
  split at found
  · rename_i known
    cases found
    exact date_valid known
  · cases found

theorem fromTimestamp_valid {n : Int} {m : Moment} (found : p.fromTimestamp n = some m) : m.date.Valid := by
  obtain ⟨told, _, found⟩ := Option.bind_eq_some_iff.mp found
  extract_lets last at found
  have each (parts : Parts × Moment) (made : last parts = some m) : m.date.Valid := by
    obtain ⟨q, told⟩ := parts
    obtain ⟨q, _, made⟩ := Option.bind_eq_some_iff.mp made
    obtain ⟨q, _, made⟩ := Option.bind_eq_some_iff.mp made
    obtain ⟨q, _, made⟩ := Option.bind_eq_some_iff.mp made
    obtain ⟨q, _, made⟩ := Option.bind_eq_some_iff.mp made
    split at made
    · rename_i d c known _
      cases made
      exact date_valid known
    · cases made
  split at found
  · split at found
    · obtain ⟨parts, _, made⟩ := Option.bind_eq_some_iff.mp found
      exact each parts made
    · obtain ⟨parts, _, made⟩ := Option.bind_eq_some_iff.mp found
      exact each parts made
    · cases found
  · obtain ⟨parts, _, made⟩ := Option.bind_eq_some_iff.mp found
    exact each parts made

theorem momentAt_valid {offset : Int} {m : Moment} (found : p.momentAt offset = some m) : m.date.Valid := by
  unfold momentAt at found
  split at found
  · rename_i d c _ known _
    split at found
    · cases found
      exact date_valid known
    · cases found
  · cases found
  · cases found
  · exact fromTimestamp_valid found
  · cases found

theorem withOffset_valid {m : Moment} {offset : Int} (found : p.withOffset = some (m, offset)) : m.date.Valid := by
  obtain ⟨east, _, found⟩ := Option.bind_eq_some_iff.mp found
  obtain ⟨told, made, found⟩ := Option.bind_eq_some_iff.mp found
  split at found
  · cases found
    exact momentAt_valid made
  · cases found

theorem universal_sound {m : Moment} (found : p.universal = some m) : m.Sound := by
  obtain ⟨told, _, shifted⟩ := Option.bind_eq_some_iff.mp found
  exact Moment.shift?_sound shifted

end Calendar.Parts
end TidyRows
