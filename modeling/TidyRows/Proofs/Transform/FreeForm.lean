import TidyRows.Proofs.Calendar.Shape
import TidyRows.Transform.Dates
namespace TidyRows
open Calendar

def Date.isoText (d : Date) : List Char :=
  paddedText 4 d.year.toNat ++ '-' :: paddedText 2 d.month ++ '-' :: paddedText 2 d.day

namespace Transform

def shortYearPattern : String := "%m/%d/%y"

def items (pattern : String) : List Calendar.Item := itemsOf pattern.toList

def readsBack (pattern other : String) : Bool :=
  rereads (items pattern) (items other) && ((items pattern).foldl Fields.read .unread).full

-- No text of the shape is a timestamp or has blanks around it.
def untimed (s : Shape) : Bool :=
  stampless s && solid s && solid s.reverse && timestampPatterns.all fun q => refuses (items q) s

-- The texts of a form, in one month and on one weekday, are none of those that are taken for something else.
def keptApart (pattern : String) (month weekday : Nat) : Bool :=
  (shape? month weekday (items pattern)).any fun s =>
    untimed s && (datePatterns.takeWhile (· != pattern)).all fun q => refuses (items q) s || readsBack q pattern

theorem datePatterns_keptApart : ∀ p ∈ datePatterns, p ≠ shortYearPattern → readsBack p p = true ∧
    ∀ month < 12, ∀ weekday < 7, keptApart p (month + 1) weekday = true := by
  decide +kernel

section
variable {d : Date} {pattern other : String} {text : List Char}

theorem dateBy?_readsBack (four : FourDigits d) (reads : readsBack pattern other = true)
    (written : write? (Moment.ofDate d) other.toList = some text) :
    dateBy? pattern.toList text = some (Moment.ofDate d) := by
  obtain ⟨same, full⟩ := Bool.and_eq_true_iff.mp reads
  obtain ⟨text', written', _, parts⟩ := partsBy?_text four same
  cases written.symm.trans written'
  rw [← items] at parts
  rw [dateBy?, parts, Option.bind_some, Fields.date?_parts full d, four.valid, Option.map_some]

theorem dateBy?_refused {s : Shape} (refused : refuses (items pattern) s = true) (same : s.Matches text) :
    dateBy? pattern.toList text = none := by
  rw [dateBy?, partsBy?_refused refused same]
  rfl

-- Nothing but the forms of dates counts for a text.
structure Untimed (text : List Char) : Prop where
  stamp : partsOfTimestamp? text = none
  times : ∀ q ∈ timestampPatterns, momentBy? q.toList text = none
  trimmed : Text.trim text = text
  filled : text ≠ []

theorem untimed_matches {s : Shape} (known : untimed s = true) (same : s.Matches text) : Untimed text := by
  simp only [untimed, Bool.and_eq_true, List.all_eq_true] at known
  obtain ⟨⟨⟨unstamped, starts⟩, ends⟩, times⟩ := known
  refine ⟨partsOfTimestamp?_stampless unstamped same, ?_, same.trim starts ends, ?_⟩
  · intro q member
    rw [momentBy?, partsBy?_refused (times q member) same]
    rfl
  · obtain ⟨c, more, text, _⟩ := same.solid starts
    rw [text]
    exact List.cons_ne_nil c more

theorem Untimed.freeMoment?_eq (untimed : Untimed text) :
    freeMoment? text = datePatterns.findSome? fun p => dateBy? p.toList text := by
  have times : firstTimestamp? text = none := List.findSome?_eq_none_iff.mpr untimed.times
  rw [freeMoment?, untimed.stamp, times, Option.bind_none, Option.none_or, Option.none_or]

-- No form before the own one of a text makes anything else of it.
structure Unmistaken (pattern : String) (d : Date) (text : List Char) : Prop extends Untimed text where
  dates : ∀ q ∈ datePatterns.takeWhile (· != pattern), dateBy? q.toList text = none ∨
    dateBy? q.toList text = some (Moment.ofDate d)

theorem unmistaken (four : FourDigits d) (kept : keptApart pattern d.month d.weekday = true)
    (written : write? (Moment.ofDate d) pattern.toList = some text) : Unmistaken pattern d text := by
  obtain ⟨s, shaped, known⟩ := (Option.any_eq_true ..).mp kept
  obtain ⟨untimed, dates⟩ := Bool.and_eq_true_iff.mp known
  have same : s.Matches text := shape?_matches four shaped written
  refine ⟨untimed_matches untimed same, ?_⟩
  intro q member
  rcases Bool.or_eq_true_iff.mp (List.all_eq_true.mp dates q member) with refused | reads
  · exact .inl (dateBy?_refused refused same)
  · exact .inr (dateBy?_readsBack four reads written)

theorem findSome?_of_same {α β : Type} {f : α → Option β} {l : List α} {b : β}
    (each : ∀ a ∈ l, f a = none ∨ f a = some b) (one : ∃ a ∈ l, f a = some b) : l.findSome? f = some b := by
  induction l with
  | nil =>
    obtain ⟨a, member, _⟩ := one
    cases member
  | cons a l ih =>
    rw [List.findSome?_cons]
    rcases each a (List.mem_cons_self ..) with none | same
    · rw [none]
      refine ih (fun c member => each c (List.mem_cons_of_mem _ member)) ?_
      obtain ⟨c, member, same⟩ := one
      rcases List.mem_cons.mp member with rfl | later
      · cases none.symm.trans same
      · exact ⟨c, later, same⟩
    · rw [same]

theorem dropWhile_ne {α : Type} [DecidableEq α] {a : α} {l : List α} (member : a ∈ l) :
    ∃ after, l.dropWhile (· != a) = a :: after := by
  induction l with
  | nil => cases member
  | cons b l ih =>
    by_cases same : b = a
    · exact ⟨l, by simp [same]⟩
    · obtain ⟨after, rest⟩ := ih ((List.mem_cons.mp member).resolve_left (Ne.symm same))
      exact ⟨after, by simp [same, rest]⟩

theorem Unmistaken.freeMoment?_own (unmistaken : Unmistaken pattern d text) (member : pattern ∈ datePatterns)
    (own : dateBy? pattern.toList text = some (Moment.ofDate d)) : freeMoment? text = some (Moment.ofDate d) := by
  obtain ⟨after, rest⟩ := dropWhile_ne member
  have first : (datePatterns.takeWhile (· != pattern) ++ [pattern]).findSome? (fun p => dateBy? p.toList text) =
      some (Moment.ofDate d) := by
    refine findSome?_of_same ?_ ⟨pattern, by simp, own⟩
    intro q member
    rcases List.mem_append.mp member with before | last
    · exact unmistaken.dates q before
    · exact .inr (List.mem_singleton.mp last ▸ own)
  have all : datePatterns = datePatterns.takeWhile (· != pattern) ++ [pattern] ++ after := by
    rw [List.append_assoc, List.singleton_append, ← rest, List.takeWhile_append_dropWhile]
  rw [unmistaken.freeMoment?_eq, all, List.findSome?_append, first, Option.some_or]

theorem write?_iso (four : FourDigits d) :
    write? (Moment.ofDate d) (percentPattern defaultDatePattern.toList) = some d.isoText := by
  have pattern : itemsOf (percentPattern defaultDatePattern.toList) =
      [.number .year .zero, .literal ['-'], .number .month .zero, .literal ['-'], .number .day .zero] := by
    decide +kernel
  have year := write?_number four (rfl : NumberField.year.width? = some 4)
  have month := write?_number four (rfl : NumberField.month.width? = some 2)
  have day := write?_number four (rfl : NumberField.day.width? = some 2)
  have dash : (Calendar.Item.literal ['-']).write? (Moment.ofDate d) = some ['-'] := rfl
  have nothing : written? (Moment.ofDate d) [] = some [] := rfl
  rw [write?_eq, pattern, written?_cons year (written?_cons dash (written?_cons month (written?_cons dash
    (written?_cons day nothing))))]
  simp [Date.isoText, dateNumber]

theorem parseDate_eq (untimed : Untimed text) (told : freeMoment? text = some (Moment.ofDate d)) (four : FourDigits d) :
    parseDate .none text = d.isoText := by
  have filled : text.isEmpty = false := List.isEmpty_eq_false_iff.mpr untimed.filled
  unfold parseDate
  simp only [TransformOptions.none, Option.getD_none, untimed.trimmed, filled, told, Option.bind_some, write?_iso four,
    Option.getD_some]
  rfl

theorem parseDate_unmistaken {pattern : String} (member : pattern ∈ datePatterns) (long : pattern ≠ shortYearPattern)
    (four : FourDigits d) : ∃ text, write? (Moment.ofDate d) pattern.toList = some text ∧
      parseDate .none text = d.isoText ∧ Unmistaken pattern d text := by
  obtain ⟨own, kept⟩ := datePatterns_keptApart pattern member long
  obtain ⟨-, first, last, _, _⟩ := ofParts?_bounds four.valid
  have kept := kept (d.month - 1) (by omega) d.weekday (weekday_lt d)
  rw [Nat.sub_add_cancel first] at kept
  obtain ⟨text, written, _⟩ := partsBy?_text four (Bool.and_eq_true_iff.mp own).1
  have unmistaken := unmistaken four kept written
  have told := unmistaken.freeMoment?_own member (dateBy?_readsBack four own written)
  exact ⟨text, written, parseDate_eq unmistaken.toUntimed told four, unmistaken⟩

end

-- What a text with a year of two digits is taken for: the month counts as a year where that gives a date, and otherwise
-- the year as one of the first century.
def mistaken (d : Date) : Date :=
  (Date.ofParts? d.month d.day (d.year % 100).toNat).getD ⟨d.year % 100, d.month, d.day⟩

section
variable {d : Date}

theorem isLeap_ofCentury {y : Int} (least : 1969 ≤ y) (most : y ≤ 2068) : Date.isLeap (y % 100) = Date.isLeap y := by
  rw [Bool.eq_iff_iff]
  simp only [Date.isLeap, Bool.and_eq_true, Bool.or_eq_true, beq_iff_eq, bne_iff_ne]
  omega

theorem ofParts?_ofCentury (four : FourDigits d) (least : 1969 ≤ d.year) (most : d.year ≤ 2068) :
    Date.ofParts? (d.year % 100) d.month d.day = some ⟨d.year % 100, d.month, d.day⟩ := by
  have valid := four.valid
  have length : Date.monthLength (d.year % 100) d.month = Date.monthLength d.year d.month := by
    unfold Date.monthLength Date.monthLengths
    rw [isLeap_ofCentury least most]
  unfold Date.ofParts? at valid ⊢
  rw [length]
  split at valid
  · rename_i inside
    have early : Date.minYear ≤ d.year % 100 := by
      rw [Date.minYear]
      omega
    have late : d.year % 100 ≤ Date.maxYear := by
      rw [Date.maxYear]
      omega
    exact if_pos ⟨early, late, inside.2.2⟩
  · cases valid

theorem mistaken_fourDigits (four : FourDigits d) (least : 1969 ≤ d.year) (most : d.year ≤ 2068) :
    FourDigits (mistaken d) ∧ (mistaken d).year < 100 := by
  obtain ⟨-, first, last, _, _⟩ := ofParts?_bounds four.valid
  unfold mistaken
  cases monthFirst : Date.ofParts? d.month d.day (d.year % 100).toNat with
  | none =>
    rw [Option.getD_none]
    refine ⟨⟨ofParts?_ofCentury four least most, ?_, ?_⟩, ?_⟩ <;> dsimp only <;> omega
  | some e =>
    obtain ⟨rfl, _⟩ := ofParts?_bounds monthFirst
    rw [Option.getD_some]
    refine ⟨⟨monthFirst, ?_, ?_⟩, ?_⟩ <;> dsimp only <;> omega

theorem isoText_year {e : Date} (four : FourDigits d) (four' : FourDigits e) (same : d.isoText = e.isoText) :
    d.year = e.year := by
  have least := four.least
  have most := four.most
  have least' := four'.least
  have most' := four'.most
  have year : DigitsOf (paddedText 4 d.year.toNat) 4 d.year.toNat := paddedText_numeral (by decide) (by omega)
  have year' : DigitsOf (paddedText 4 e.year.toNat) 4 e.year.toNat := paddedText_numeral (by decide) (by omega)
  unfold Date.isoText at same
  rw [List.append_assoc, List.append_assoc] at same
  have years := (List.append_inj same (year.width.trans year'.width.symm)).1
  have value : d.year.toNat = e.year.toNat := by rw [← year.value, years, year'.value]
  omega

def shortYearText (d : Date) : List Char := slashedText ([.month, .day, .yearOfCentury].map (dateNumber d))

def shortYearShape : Shape := [none, none, some '/', none, none, some '/', none, none]

theorem items_shortYear : items shortYearPattern = slashed [.month, .day, .yearOfCentury] := rfl

theorem write?_shortYear (four : FourDigits d) :
    write? (Moment.ofDate d) shortYearPattern.toList = some (shortYearText d) := by
  rw [write?_eq, ← items, items_shortYear]
  exact written?_slashed four (by decide)

theorem shortYearText_matches (four : FourDigits d) : shortYearShape.Matches (shortYearText d) := by
  refine shape?_matches four ?_ (write?_shortYear four)
  rw [← items, items_shortYear]
  rfl

-- Numbers of two digits are read as whatever date the form makes of them.
theorem dateBy?_slashed {fs : List NumberField} {pattern : String} (form : items pattern = slashed fs)
    (dated : ∀ f ∈ fs, f.dated = true) (full : ((slashed fs).foldl Fields.read .unread).full = true)
    (least : 0 ≤ d.year) (year : d.year < 100) (month : d.month < 100) (day : d.day < 100) :
    dateBy? pattern.toList (slashedText (fs.map (dateNumber d))) =
      (Date.ofParts? d.year d.month d.day).map Moment.ofDate := by
  have most : d.year ≤ 9999 := by omega
  have small : ∀ f ∈ fs, dateNumber d f < 100 := by
    intro f member
    have known := dated f member
    cases f <;> cases known
    case year =>
      rw [dateNumber]
      omega
    case month => exact month
    case day => exact day
  rw [dateBy?, date?_slashed least most dated small form full]

theorem dateBy?_yearFirst (four : FourDigits d) : dateBy? "%Y/%m/%d".toList (shortYearText d) =
    (Date.ofParts? d.month d.day (d.year % 100).toNat).map Moment.ofDate := by
  obtain ⟨-, _, last, _, final⟩ := ofParts?_bounds four.valid
  let e : Date := ⟨d.month, d.day, (d.year % 100).toNat⟩
  have form : items "%Y/%m/%d" = slashed [.year, .month, .day] := rfl
  have text : shortYearText d = slashedText ([NumberField.year, .month, .day].map (dateNumber e)) := by
    simp only [shortYearText, List.map_cons, dateNumber, e, Int.toNat_natCast]
    rfl
  have early : e.year < 100 := Int.ofNat_lt.mpr (Nat.lt_of_le_of_lt last (by decide))
  have month : e.month < 100 := Nat.lt_of_le_of_lt final (by decide)
  have day : e.day < 100 := show (d.year % 100).toNat < 100 by omega
  rw [text]
  exact dateBy?_slashed form (by decide) (by decide) (Int.natCast_nonneg _) early month day

theorem dateBy?_monthFirst (four : FourDigits d) : dateBy? "%m/%d/%Y".toList (shortYearText d) =
    (Date.ofParts? (d.year % 100) d.month d.day).map Moment.ofDate := by
  obtain ⟨-, _, last, _, final⟩ := ofParts?_bounds four.valid
  let e : Date := ⟨d.year % 100, d.month, d.day⟩
  have form : items "%m/%d/%Y" = slashed [.month, .day, .year] := rfl
  have text : shortYearText d = slashedText ([NumberField.month, .day, .year].map (dateNumber e)) := by
    simp only [shortYearText, List.map_cons, dateNumber, e]
    rfl
  have early : e.year < 100 := Int.emod_lt_of_pos _ (by decide)
  have month : e.month < 100 := Nat.lt_of_le_of_lt last (by decide)
  have day : e.day < 100 := Nat.lt_of_le_of_lt final (by decide)
  rw [text]
  exact dateBy?_slashed form (by decide) (by decide) (Int.emod_nonneg _ (by decide)) early month day

theorem freeMoment?_shortYear (four : FourDigits d) (least : 1969 ≤ d.year) (most : d.year ≤ 2068)
    (untimed : Untimed (shortYearText d)) : freeMoment? (shortYearText d) = some (Moment.ofDate (mistaken d)) := by
  have dashed : dateBy? "%Y-%m-%d".toList (shortYearText d) = none :=
    dateBy?_refused rfl (shortYearText_matches four)
  have forms : datePatterns = "%Y-%m-%d" :: "%Y/%m/%d" :: "%m/%d/%Y" :: datePatterns.drop 3 := rfl
  rw [untimed.freeMoment?_eq, forms, List.findSome?_cons, List.findSome?_cons, List.findSome?_cons, dashed,
    dateBy?_yearFirst four, dateBy?_monthFirst four, ofParts?_ofCentury four least most, mistaken]
  cases Date.ofParts? d.month d.day (d.year % 100).toNat <;> rfl

theorem parseDate_shortYear (four : FourDigits d) (least : 1969 ≤ d.year) (most : d.year ≤ 2068) :
    parseDate .none (shortYearText d) = (mistaken d).isoText ∧ (mistaken d).isoText ≠ d.isoText := by
  have known : untimed shortYearShape = true := by decide +kernel
  have untimed := untimed_matches known (shortYearText_matches four)
  obtain ⟨four', early⟩ := mistaken_fourDigits four least most
  refine ⟨parseDate_eq untimed (freeMoment?_shortYear four least most untimed) four', ?_⟩
  intro same
  have years := isoText_year four' four same
  omega

end

-- A date is read back right from each of its forms but the one with two digits for the year, and from that one never.
theorem parseDate_freeForm {d : Date} (four : FourDigits d) :
    (∀ pattern ∈ datePatterns, pattern ≠ shortYearPattern → ∃ text,
      write? (Moment.ofDate d) pattern.toList = some text ∧ parseDate .none text = d.isoText ∧
        Unmistaken pattern d text) ∧
    (1969 ≤ d.year → d.year ≤ 2068 → ∃ text, write? (Moment.ofDate d) shortYearPattern.toList = some text ∧
      parseDate .none text = (mistaken d).isoText ∧ (mistaken d).isoText ≠ d.isoText) := by
  constructor
  · intro pattern member long
    exact parseDate_unmistaken member long four
  · intro least most
    exact ⟨shortYearText d, write?_shortYear four, parseDate_shortYear four least most⟩

namespace MarchFifth

def day : Date := ⟨2024, 3, 5⟩

theorem day_fourDigits : FourDigits day := ⟨by decide, by decide, by decide⟩

theorem marchFifth_told : (∃ text, write? (Moment.ofDate day) "%A, %B %d, %Y".toList = some text ∧
      parseDate .none text = "2024-03-05".toList) ∧
    ∃ text, write? (Moment.ofDate day) shortYearPattern.toList = some text ∧
      parseDate .none text = "0003-05-24".toList := by
  obtain ⟨long, short⟩ := parseDate_freeForm day_fourDigits
  obtain ⟨text, written, told, _⟩ := long "%A, %B %d, %Y" (by decide) (by decide)
  obtain ⟨text', written', told', _⟩ := short (by decide) (by decide)
  have own : day.isoText = "2024-03-05".toList := by decide
  have other : (mistaken day).isoText = "0003-05-24".toList := by decide
  exact ⟨⟨text, written, told.trans own⟩, text', written', told'.trans other⟩

-- The month is read as a year.
theorem marchFifth_misread : FourDigits day ∧ 1969 ≤ day.year ∧ day.year ≤ 2068 ∧
    write? (Moment.ofDate day) shortYearPattern.toList = some "03/05/24".toList ∧
    parseDate .none "03/05/24".toList = "0003-05-24".toList ∧ day.isoText = "2024-03-05".toList :=
  ⟨day_fourDigits, by decide +kernel⟩

end MarchFifth
end Transform
end TidyRows
