import TidyRows.Proofs.Calendar.Canonical
import TidyRows.Transform.Apply
namespace TidyRows.Transform
open Calendar
open Unicode (isBlank)
open Calendar.Item (isoDate zeros)

section
variable {d : Date} {m : Moment} {text : List Char}

theorem dateText_visible {c : Char} (member : c ∈ dateText d) : isBlank c = false := by
  rcases dateText_chars member with rfl | rfl | digit
  · rfl
  · rfl
  · exact Text.digit_visible digit

theorem timeText_visible {t : Clock} {c : Char} (member : c ∈ timeText t) : isBlank c = false := by
  rcases timeText_chars member with rfl | rfl | rfl | digit
  · rfl
  · rfl
  · rfl
  · exact Text.digit_visible digit

theorem write?_date (valid : m.date.Valid) :
    write? m (percentPattern defaultDatePattern.toList) = some (dateText m.date) := by
  obtain ⟨month, day⟩ := valid_small valid
  have pattern : itemsOf (percentPattern defaultDatePattern.toList) = isoDate := by decide +kernel
  have monthText : (zeros .month).write? m = some (paddedText 2 m.date.month) :=
    congrArg some (twoDigits_padded _ month)
  have dayText : (zeros .day).write? m = some (paddedText 2 m.date.day) := congrArg some (twoDigits_padded _ day)
  have dash : (Calendar.Item.literal ['-']).write? m = some ['-'] := rfl
  have nothing : written? m [] = some [] := rfl
  rw [write?_eq, pattern]
  refine (written?_cons rfl (written?_cons dash (written?_cons monthText (written?_cons dash
    (written?_cons dayText nothing))))).trans ?_
  rw [List.append_nil]
  rfl

def clockParts (c : Clock) : List (Char × NumberField × Nat) :=
  [('T', .hour, c.hour), (':', .minute, c.minute), (':', .second, c.second)]

theorem timeText_marked (c : Clock) : timeText c = markedNumbers (clockParts c) ++ ['Z'] := by
  simp [timeText, clockParts, markedNumbers]

theorem clockParts_two {c : Clock} (hour : c.hour < 24) (minute : c.minute < 60) (second : c.second ≤ 60) :
    ∀ part ∈ clockParts c, part.2.1.width? = some 2 ∧ part.2.2 < 100 := by
  simp only [clockParts, List.forall_mem_cons]
  exact ⟨⟨rfl, by omega⟩, ⟨rfl, by omega⟩, ⟨rfl, by omega⟩, nofun⟩

theorem markedItems_clock (c : Clock) : markedItems (clockParts c) = markedItems (clockParts .midnight) := rfl

-- Items of a form behind the date that find no text there, or the time of day where they want a blank.
theorem partsBy?_ended (valid : d.Valid) {pattern : List Char} (form : isoDate ++ [.literal ['T']] <+: itemsOf pattern ∨
    isoDate ++ [Calendar.Item.gap, zeros .hour] <+: itemsOf pattern) : partsBy? pattern (dateText d) = none := by
  rw [← List.append_nil (dateText d)]
  rcases form with ⟨more, mark⟩ | ⟨more, gap⟩
  · rw [partsBy?_date valid (mark.symm.trans (List.append_assoc ..))]
    rfl
  · rw [partsBy?_date valid (gap.symm.trans (List.append_assoc ..))]
    rfl

theorem partsBy?_gap (valid : d.Valid) {pattern : List Char}
    (form : isoDate ++ [Calendar.Item.gap, zeros .hour] <+: itemsOf pattern) (c : Clock) :
    partsBy? pattern (dateText d ++ timeText c) = none := by
  obtain ⟨more, form⟩ := form
  rw [partsBy?_date valid (form.symm.trans (List.append_assoc ..))]
  rfl

theorem firstTimestamp?_date (valid : d.Valid) : firstTimestamp? (dateText d) = none := by
  have forms : ∀ q ∈ timestampPatterns, (isoDate ++ [.literal ['T']] <+: itemsOf q.toList ∨
      isoDate ++ [Calendar.Item.gap, zeros .hour] <+: itemsOf q.toList) ∨
      [zeros .month, .literal ['/']] <+: itemsOf q.toList := by
    decide
  refine List.findSome?_eq_none_iff.mpr fun q member => ?_
  have refused : partsBy? q.toList (dateText d) = none := by
    rcases forms q member with dated | struck
    · exact partsBy?_ended valid dated
    · exact partsBy?_unstruck struck (dateText_unstruck d)
  rw [momentBy?, refused]
  rfl

theorem firstTimestamp?_universal (sound : m.Sound) : firstTimestamp? (dateText m.date ++ timeText m.clock) = none := by
  have forms : ∀ q ∈ timestampPatterns, isoDate ++ [Calendar.Item.gap, zeros .hour] <+: itemsOf q.toList ∨
      [zeros .month, .literal ['/']] <+: itemsOf q.toList ∨
      itemsOf q.toList = isoDate ++ (markedItems (clockParts .midnight) ++ []) ∨
      itemsOf q.toList = isoDate ++ (markedItems (clockParts .midnight) ++ [.text .fraction]) := by
    decide +kernel
  have two := clockParts_two sound.hour sound.minute sound.second
  refine List.findSome?_eq_none_iff.mpr fun q member => ?_
  have refused : partsBy? q.toList (dateText m.date ++ timeText m.clock) = none := by
    rcases forms q member with gap | struck | whole | fraction
    · exact partsBy?_gap sound.date gap m.clock
    · refine partsBy?_unstruck struck fun member => ?_
      rcases List.mem_append.mp member with date | time
      · exact dateText_unstruck m.date date
      · exact timeText_unstruck m.clock time
    · rw [← markedItems_clock m.clock] at whole
      rw [timeText_marked]
      exact partsBy?_marked sound.date two whole fun p => rfl
    · rw [← markedItems_clock m.clock] at fraction
      rw [timeText_marked]
      exact partsBy?_marked sound.date two fraction fun p => rfl
  rw [momentBy?, refused]
  rfl

theorem offsetPatterns_universal (sound : m.Sound) :
    (offsetPatterns.findSome? fun p => (partsBy? p.toList (dateText m.date ++ timeText m.clock)).bind Parts.universal) =
      none := by
  have forms : ∀ q ∈ offsetPatterns, isoDate ++ [Calendar.Item.gap, zeros .hour] <+: itemsOf q.toList ∨
      itemsOf q.toList = isoDate ++ (markedItems (clockParts .midnight) ++ [.text .offset]) ∨
      itemsOf q.toList = isoDate ++ (markedItems ((clockParts .midnight).take 2) ++ [.text .offset]) := by
    decide +kernel
  have two := clockParts_two sound.hour sound.minute sound.second
  refine List.findSome?_eq_none_iff.mpr fun q member => ?_
  have refused : partsBy? q.toList (dateText m.date ++ timeText m.clock) = none := by
    rcases forms q member with gap | whole | short
    · exact partsBy?_gap sound.date gap m.clock
    · rw [← markedItems_clock m.clock] at whole
      rw [timeText_marked]
      exact partsBy?_marked sound.date two whole fun p => rfl
    · have text : timeText m.clock = markedNumbers ((clockParts m.clock).take 2) ++
          (':' :: (paddedText 2 m.clock.second ++ ['Z'])) := by
        simp [timeText, clockParts, markedNumbers]
      have form : itemsOf q.toList = isoDate ++ (markedItems ((clockParts m.clock).take 2) ++ [.text .offset]) := short
      rw [text]
      exact partsBy?_marked sound.date (fun part member => two part (List.mem_of_mem_take member)) form fun p => rfl
  rw [refused]
  rfl

theorem dateBy?_date (valid : d.Valid) : dateBy? "%Y-%m-%d".toList (dateText d) = some (Moment.ofDate d) := by
  have form : itemsOf "%Y-%m-%d".toList = isoDate ++ [] := rfl
  have read : partsBy? "%Y-%m-%d".toList (dateText d) = some (told.parts d) := by
    rw [← List.append_nil (dateText d), partsBy?_date valid form]
    rfl
  have known : (told.parts d).date? = some d := (Fields.date?_parts rfl d).trans valid
  rw [dateBy?, read, Option.bind_some, known, Option.map_some]

theorem freeMoment?_date (valid : d.Valid) : freeMoment? (dateText d) = some (Moment.ofDate d) := by
  have forms : datePatterns = "%Y-%m-%d" :: datePatterns.drop 1 := rfl
  rw [freeMoment?, partsOfTimestamp?_date valid, firstTimestamp?_date valid, Option.bind_none, Option.none_or,
    Option.none_or, forms, List.findSome?_cons, dateBy?_date valid]

theorem momentBy?_valid {pattern : List Char} (found : momentBy? pattern text = some m) : m.date.Valid := by
  obtain ⟨p, _, moment⟩ := Option.bind_eq_some_iff.mp found
  exact Parts.momentAt_valid moment

theorem dateBy?_valid {pattern : List Char} (found : dateBy? pattern text = some m) : m.date.Valid := by
  obtain ⟨d, date, rfl⟩ := Option.map_eq_some_iff.mp found
  obtain ⟨p, _, known⟩ := Option.bind_eq_some_iff.mp date
  exact Parts.date?_valid known

theorem firstTimestamp?_valid (found : firstTimestamp? text = some m) : m.date.Valid := by
  obtain ⟨q, _, told⟩ := List.exists_of_findSome?_eq_some found
  exact momentBy?_valid told

theorem freeMoment?_valid (found : freeMoment? text = some m) : m.date.Valid := by
  rcases Option.or_eq_some_iff.mp found with stamp | ⟨_, found⟩
  · obtain ⟨p, _, universal⟩ := Option.bind_eq_some_iff.mp stamp
    obtain ⟨_, _, moment⟩ := Option.bind_eq_some_iff.mp universal
    obtain ⟨⟨told, offset⟩, known, rfl⟩ := Option.map_eq_some_iff.mp moment
    exact Parts.withOffset_valid known
  · rcases Option.or_eq_some_iff.mp found with timed | ⟨_, dated⟩
    · exact firstTimestamp?_valid timed
    · obtain ⟨q, _, told⟩ := List.exists_of_findSome?_eq_some dated
      exact dateBy?_valid told

end

def plainDates (options : TransformOptions) : TransformOptions :=
  { options with inputFormat := none, outputFormat := none }

section
variable {options : TransformOptions} {d : Date} {m : Moment} {text : List Char}

theorem parseDate_plain : parseDate (plainDates options) text =
    if (Text.trim text).isEmpty then text
    else ((freeMoment? (Text.trim text)).bind
      fun m => write? m (percentPattern defaultDatePattern.toList)).getD text := rfl

theorem parseDate_told (told : freeMoment? (Text.trim text) = some m) :
    parseDate (plainDates options) text = dateText m.date := by
  have filled : (Text.trim text).isEmpty = false := by
    have nothing : freeMoment? [] = none := rfl
    cases trimmed : Text.trim text with
    | nil =>
      rw [trimmed, nothing] at told
      cases told
    | cons c more => rfl
  rw [parseDate_plain, filled, told, Option.bind_some, write?_date (freeMoment?_valid told), Option.getD_some]
  rfl

theorem parseDate_kept (untold : freeMoment? (Text.trim text) = none) : parseDate (plainDates options) text = text := by
  rw [parseDate_plain, untold, Option.bind_none, Option.getD_none, ite_self]

theorem parseDate_date (valid : d.Valid) : parseDate (plainDates options) (dateText d) = dateText d := by
  have trimmed : Text.trim (dateText d) = dateText d := Text.trim_visible fun _ => dateText_visible
  exact parseDate_told (trimmed.symm ▸ freeMoment?_date valid)

end

-- The instant that a timestamp tells, by its own offset or by the zone of its column.
def instant? [Libraries] (options : TransformOptions) (text : List Char) : Option Moment :=
  (offsetMoment? text).or (options.sourceTimezone.bind fun z => zonedMoment? z text)

section
variable {options : TransformOptions} {m : Moment} {text : List Char}

theorem offsetMoment?_sound (found : offsetMoment? text = some m) : m.Sound := by
  rcases Option.or_eq_some_iff.mp found with stamp | ⟨_, found⟩
  · obtain ⟨p, _, universal⟩ := Option.bind_eq_some_iff.mp stamp
    exact Parts.universal_sound universal
  · rcases Option.or_eq_some_iff.mp found with mail | ⟨_, formed⟩
    · obtain ⟨p, _, universal⟩ := Option.bind_eq_some_iff.mp mail
      exact Parts.universal_sound universal
    · obtain ⟨q, _, told⟩ := List.exists_of_findSome?_eq_some formed
      obtain ⟨p, _, universal⟩ := Option.bind_eq_some_iff.mp told
      exact Parts.universal_sound universal

theorem zonedMoment?_sound [Libraries] {zone : String} (found : zonedMoment? zone text = some m) : m.Sound := by
  obtain ⟨z, _, found⟩ := Option.bind_eq_some_iff.mp found
  obtain ⟨told, _, universal⟩ := Option.bind_eq_some_iff.mp found
  exact Offsets.universal?_sound universal

theorem instant?_sound [Libraries] (found : instant? options text = some m) : m.Sound := by
  rcases Option.or_eq_some_iff.mp found with offset | ⟨_, zoned⟩
  · exact offsetMoment?_sound offset
  · obtain ⟨zone, _, told⟩ := Option.bind_eq_some_iff.mp zoned
    exact zonedMoment?_sound told

-- The text of an instant is a timestamp of the same instant, to the second, where its year has four digits. With any
-- other year no form reads it.
theorem instant?_universal [Libraries] (sound : m.Sound) : instant? options (universalText m) =
    if 0 ≤ m.date.year ∧ m.date.year ≤ 9999 then some { m with clock := { m.clock with nanosecond := 0 } }
      else none := by
  unfold instant? offsetMoment?
  split
  · rename_i four
    rw [partsOfTimestamp?_universal sound four.1 four.2, Option.bind_some, toldParts_universal sound, Option.some_or,
      Option.some_or]
  · rename_i far
    obtain ⟨c, more, start, sign⟩ := signed_start far (timeText m.clock)
    have other : isDigit c = false := by rcases sign with rfl | rfl <;> rfl
    have unzoned (zone : String) : zonedMoment? zone (universalText m) = none := by
      unfold zonedMoment?
      rw [universalText_eq sound, firstTimestamp?_universal sound]
      exact Option.bind_fun_none _
    have offsets := offsetPatterns_universal sound
    rw [← universalText_eq sound] at start offsets
    rw [offsets, start, partsOfTimestamp?_sign other, partsOfMail?_sign sign]
    rw [start] at unzoned
    simp only [unzoned, Option.bind_none, Option.none_or, Option.bind_fun_none]

theorem toUniversal_eq [Libraries] :
    toUniversal options text = ((instant? options (Text.trim text)).map universalText).getD text := by
  unfold toUniversal
  dsimp only
  rw [← instant?]
  cases instant? options (Text.trim text) <;> rfl

theorem toUniversal_told [Libraries] (told : instant? options (Text.trim text) = some m) :
    toUniversal options text = universalText m := by
  rw [toUniversal_eq, told, Option.map_some, Option.getD_some]

theorem toUniversal_universal [Libraries] (sound : m.Sound) : toUniversal options (universalText m) = universalText m := by
  have trimmed : Text.trim (universalText m) = universalText m := by
    rw [universalText_eq sound]
    refine Text.trim_visible fun c member => ?_
    rcases List.mem_append.mp member with date | time
    · exact dateText_visible date
    · exact timeText_visible time
  rw [toUniversal_eq, trimmed, instant?_universal sound]
  split <;> rfl

theorem toUniversal_kept [Libraries] (untold : instant? options (Text.trim text) = none) : toUniversal options text = text := by
  rw [toUniversal_eq, untold, Option.map_none, Option.getD_none]

end

-- A change of texts writes what it reads in one, keeps every value in which it reads nothing, and leaves its own results as
-- they are; `reread` is what it reads in what it has written.
structure Settles (change : Row → Value → Value) (read : List Char → Option Moment) (written : Moment → List Char)
    (reread : Moment → Option Moment) (row later : Row) (v : Value) : Prop where
  again : change later (change row v) = change row v
  told : ∀ s m, v = .text s → read (Text.trim s.toList) = some m →
    change row v = .text (String.ofList (written m)) ∧ read (written m) = reread m
  kept : (∀ s, v = .text s → read (Text.trim s.toList) = none) → change row v = v

theorem settles_onText {f : List Char → List Char} {read : List Char → Option Moment} {written : Moment → List Char}
    {reread : Moment → Option Moment}
    (writes : ∀ text m, read (Text.trim text) = some m → f text = written m)
    (keeps : ∀ text, read (Text.trim text) = none → f text = text)
    (still : ∀ text m, read text = some m → f (written m) = written m ∧ read (written m) = reread m)
    (row later : Row) (v : Value) : Settles (fun _ => onText f) read written reread row later v := by
  cases v with
  | text s =>
    cases told : read (Text.trim s.toList) with
    | none =>
      have same : onText f (.text s) = .text s := by rw [onText, keeps _ told, String.ofList_toList]
      refine ⟨?_, ?_, fun _ => same⟩
      · rw [same, same]
      · intro t m own found
        cases own
        cases told.symm.trans found
    | some m =>
      obtain ⟨fixed, reads⟩ := still _ m told
      have result : onText f (.text s) = .text (String.ofList (written m)) := by rw [onText, writes _ m told]
      refine ⟨?_, ?_, ?_⟩
      · rw [result, onText, String.toList_ofList, fixed]
      · intro t n own found
        cases own
        cases told.symm.trans found
        exact ⟨result, reads⟩
      · intro nothing
        cases told.symm.trans (nothing s rfl)
  | null => exact ⟨rfl, nofun, fun _ => rfl⟩
  | bool b => exact ⟨rfl, nofun, fun _ => rfl⟩
  | whole n => exact ⟨rfl, nofun, fun _ => rfl⟩
  | real x => exact ⟨rfl, nofun, fun _ => rfl⟩
  | list vs => exact ⟨rfl, nofun, fun _ => rfl⟩
  | record fields => exact ⟨rfl, nofun, fun _ => rfl⟩

-- Dates and timestamps settle at once: the text of a date is read as that day, and the one of an instant as that instant,
-- or not at all where its year has a sign.
theorem fieldValue_dates_again [Libraries] (options : TransformOptions) (row later : Row) (v : Value) :
    Settles (fieldValue .dateParse (plainDates options)) freeMoment? (fun m => dateText m.date)
      (fun m => some (Moment.ofDate m.date)) row later v ∧
    Settles (fieldValue .timezoneToUtc options) (instant? options) universalText
      (fun m => if 0 ≤ m.date.year ∧ m.date.year ≤ 9999 then some { m with clock := { m.clock with nanosecond := 0 } }
        else none) row later v := by
  constructor
  · refine settles_onText (fun _ _ => parseDate_told) (fun _ => parseDate_kept) (fun text m told => ?_) row later v
    have valid := freeMoment?_valid told
    exact ⟨parseDate_date valid, freeMoment?_date valid⟩
  · refine settles_onText (fun _ _ => toUniversal_told) (fun _ => toUniversal_kept) (fun text m told => ?_) row later v
    have sound := instant?_sound told
    exact ⟨toUniversal_universal sound, instant?_universal sound⟩

section
open Bare

example : toUniversal .none "+12345-12-31T18:59:60-0500".toList = "+12345-12-31T23:59:60Z".toList := by decide +kernel

end

example :
    let _ : Libraries := ⟨fun _ => some fun _ => .once 12600, fun _ => .error "no patterns"⟩
    toUniversal { TransformOptions.none with sourceTimezone := some "Asia/Tehran" } "2024-03-05 01:30".toList =
      "2024-03-04T22:00:00Z".toList := by decide +kernel

end TidyRows.Transform
