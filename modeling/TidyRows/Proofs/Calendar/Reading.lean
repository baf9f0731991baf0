import Mathlib.Data.Nat.Digits.Defs
import TidyRows.Calendar.Reading
import TidyRows.Proofs.Number.Written
import TidyRows.Proofs.Text.Blanks
namespace TidyRows.Calendar
open Unicode (isBlank)
open Item (nameOf)

structure DigitsOf (ds : List Char) (width n : Nat) : Prop where
  width : ds.length = width
  digits : ∀ c ∈ ds, isDigit c = true
  value : digitsValue 0 ds = n

section
variable {ds rest : List Char} {width n : Nat}

theorem paddedText_digits (width n : Nat) : DigitsOf (paddedText width n) (paddedText width n).length n := by
  refine ⟨rfl, ?_, ?_⟩
  · intro c member
    rcases List.mem_append.mp member with zero | digit
    · rw [(List.mem_replicate.mp zero).2]
      rfl
    · exact isDigit_of_natText digit
  · rw [paddedText, digitsValue_append, digitsValue_zeros, Nat.mul_zero, digitsValue_natText]

theorem paddedText_numeral (wide : 0 < width) (fits : n < 10 ^ width) : DigitsOf (paddedText width n) width n := by
  have length : (natText n).length ≤ width := Nat.toDigits_length 10 n width wide fits
  obtain ⟨_, digits, value⟩ := paddedText_digits width n
  refine ⟨?_, digits, value⟩
  rw [paddedText, List.length_append, List.length_replicate, Nat.sub_add_cancel length]

-- Digits that fill the width, or that no digit follows.
theorem digits?_enough {least most : Nat} (numeral : DigitsOf ds width n) (enough : least ≤ width) (within : width ≤ most)
    (ends : width = most ∨ ∀ c more, rest = c :: more → isDigit c = false) (small : n < 0x8000000000000000) :
    digits? least most (ds ++ rest) = some ((n : Int), rest) := by
  have front : ((ds ++ rest).take most).takeWhile isDigit = ds := by
    rw [List.take_append, List.take_of_length_le (numeral.width ▸ within),
      List.takeWhile_append_of_pos numeral.digits]
    suffices none : (rest.take (most - ds.length)).takeWhile isDigit = [] by rw [none, List.append_nil]
    rcases ends with full | next
    · rw [numeral.width, full, Nat.sub_self]
      rfl
    · cases rest with
      | nil => simp
      | cons c more =>
        cases most - ds.length with
        | zero => rfl
        | succ k => rw [List.take_succ_cons, List.takeWhile_cons_of_neg (by simp [next c more rfl])]
  unfold digits?
  dsimp only
  rw [front, numeral.value, if_pos ⟨numeral.width.symm ▸ enough, small⟩, List.drop_left]

theorem digits?_numeral {most : Nat} (numeral : DigitsOf ds width n) (wide : 0 < width) (within : width ≤ most)
    (ends : width = most ∨ ∀ c more, rest = c :: more → isDigit c = false) (small : n < 0x8000000000000000) :
    digits? 1 most (ds ++ rest) = some ((n : Int), rest) := digits?_enough numeral wide within ends small

theorem DigitsOf.start (numeral : DigitsOf ds width n) (wide : 0 < width) :
    ∃ c more, ds = c :: more ∧ isDigit c = true := by
  cases ds with
  | nil =>
    rw [← numeral.width] at wide
    cases wide
  | cons c more => exact ⟨c, more, rfl, numeral.digits c (List.mem_cons_self ..)⟩

theorem DigitsOf.unblanked (numeral : DigitsOf ds width n) (wide : 0 < width) (rest : List Char) :
    (ds ++ rest).dropWhile isBlank = ds ++ rest := by
  obtain ⟨c, more, rfl, digit⟩ := numeral.start wide
  exact List.dropWhile_cons_of_neg (by simp [Text.digit_visible digit])

theorem signed?_numeral {most : Nat} (numeral : DigitsOf ds width n) (wide : 0 < width) (within : width ≤ most)
    (ends : width = most ∨ ∀ c more, rest = c :: more → isDigit c = false) (small : n < 0x8000000000000000) :
    signed? most (ds ++ rest) = some ((n : Int), rest) := by
  rw [← digits?_numeral numeral wide within ends small]
  obtain ⟨c, more, rfl, digit⟩ := numeral.start wide
  unfold signed?
  split
  · rename_i same
    rw [(List.cons.inj same).1] at digit
    cases digit
  · rename_i same
    rw [(List.cons.inj same).1] at digit
    cases digit
  · rfl

end

-- A name of a list that is told from the others by its first three letters, and in which no blank can be taken for one.
structure Apart (names : List String) (i : Nat) : Prop where
  found : shortName? names ((nameOf names i).take 3) = some (i, [])
  long : 3 ≤ (nameOf names i).length
  shown : (nameOf names i).any isBlank = false
  solid : ' ' ∉ ((nameOf names i).drop 3).map lowerAscii

instance (names : List String) (i : Nat) : Decidable (Apart names i) :=
  decidable_of_iff (shortName? names ((nameOf names i).take 3) = some (i, []) ∧ 3 ≤ (nameOf names i).length ∧
    (nameOf names i).any isBlank = false ∧ ' ' ∉ ((nameOf names i).drop 3).map lowerAscii)
    ⟨fun ⟨found, long, shown, solid⟩ => ⟨found, long, shown, solid⟩,
      fun apart => ⟨apart.found, apart.long, apart.shown, apart.solid⟩⟩

theorem months_apart : ∀ i < 12, Apart Date.monthNames i := by decide +kernel

theorem weekdays_apart : ∀ i < 7, Apart Date.weekdayNames i := by decide

section
variable {names : List String} {i : Nat} {cs rest : List Char}

theorem shortName?_start (apart : Apart names i) (start : cs.take 3 = (nameOf names i).take 3) :
    shortName? names cs = some (i, cs.drop 3) := by
  have found := apart.found
  unfold shortName? at found ⊢
  dsimp only at found ⊢
  rw [List.take_take, Nat.min_self, ← start] at found
  split at found
  · rename_i place
    rw [if_pos place, (Prod.mk.inj (Option.some.inj found)).1]
  · cases found

theorem shortName?_short (apart : Apart names i) :
    shortName? names ((nameOf names i).take 3 ++ rest) = some (i, rest) := by
  have short : ((nameOf names i).take 3).length = 3 := List.length_take_of_le apart.long
  have start : ((nameOf names i).take 3 ++ rest).take 3 = (nameOf names i).take 3 := List.take_left' short
  rw [shortName?_start apart start, List.drop_left' short]

theorem longName?_start {ending : List Char} (apart : Apart names i) (start : cs.take 3 = (nameOf names i).take 3)
    (whole : ((nameOf names i).drop 3).map lowerAscii = ending) : longName? names cs =
      some (if ((cs.drop 3).take ending.length).map lowerAscii = ending then (i, (cs.drop 3).drop ending.length)
        else (i, cs.drop 3)) := by
  subst whole
  unfold longName?
  rw [shortName?_start apart start]
  rfl

theorem longName?_full (apart : Apart names i) : longName? names (nameOf names i ++ rest) = some (i, rest) := by
  have start : (nameOf names i ++ rest).take 3 = (nameOf names i).take 3 := List.take_append_of_le_length apart.long
  have ending : (nameOf names i ++ rest).drop 3 = (nameOf names i).drop 3 ++ rest :=
    List.drop_append_of_le_length apart.long
  rw [longName?_start apart start rfl, ending, List.length_map, List.take_left, if_pos rfl, List.drop_left]

-- A short name with a blank behind it is not taken for more.
theorem longName?_short (apart : Apart names i) :
    longName? names ((nameOf names i).take 3 ++ ' ' :: rest) = some (i, ' ' :: rest) := by
  have short : ((nameOf names i).take 3).length = 3 := List.length_take_of_le apart.long
  have start : ((nameOf names i).take 3 ++ ' ' :: rest).take 3 = (nameOf names i).take 3 := List.take_left' short
  have after : ((nameOf names i).take 3 ++ ' ' :: rest).drop 3 = ' ' :: rest := List.drop_left' short
  rw [longName?_start apart start rfl, after]
  split
  · rename_i same
    cases ending : ((nameOf names i).drop 3).map lowerAscii with
    | nil => rfl
    | cons c more =>
      have blank : c = ' ' := by
        rw [ending, List.length_cons, List.take_succ_cons, List.map_cons] at same
        exact (List.cons.inj same).1.symm
      refine absurd ?_ apart.solid
      rw [ending, blank]
      exact List.mem_cons_self ..
  · rfl

end

def NumberField.dated : NumberField → Bool
  | .year => true
  | .month => true
  | .day => true
  | _ => false

-- How many digits a number of a date or a time of day is written with, and the most that are read.
def NumberField.width? : NumberField → Option Nat
  | .year => some 4
  | .month => some 2
  | .day => some 2
  | .yearOfCentury => some 2
  | .hour => some 2
  | .minute => some 2
  | .second => some 2
  | _ => none

def NumberField.put (p : Parts) (n : Int) : NumberField → Option Parts
  | .year => p.setYear n
  | .month => p.setMonth n
  | .day => p.setDay n
  | _ => none

section
variable {ds rest : List Char} {width n : Nat} {p : Parts}

theorem set_some (r : Reader) (put : Parts → Int → Option Parts) (n : Int) (rest : List Char) :
    r.set put (some (n, rest)) = (put r.parts n).map (⟨·, rest⟩) := by
  rw [Option.map_eq_bind]
  rfl

theorem item?_number {f : NumberField} {most : Nat} (dated : f.dated = true) (limit : f.width? = some most)
    (numeral : DigitsOf ds width n) (wide : 0 < width) (within : width ≤ most)
    (ends : width = most ∨ ∀ c more, rest = c :: more → isDigit c = false) (small : n < 10000) (pad : Pad) :
    Reader.item? ⟨p, ds ++ rest⟩ (.number f pad) = (f.put p n).map (⟨·, rest⟩) := by
  have word : n < 0x8000000000000000 := Nat.lt_trans small (by decide)
  cases f <;> cases dated <;> cases limit
  case year =>
    simp only [Reader.item?, Reader.number?, numeral.unblanked wide, signed?_numeral numeral wide within ends word,
      set_some, NumberField.put]
  all_goals
    simp only [Reader.item?, Reader.number?, numeral.unblanked wide, digits?_numeral numeral wide within ends word,
      set_some, NumberField.put]

theorem item?_monthName {i : Nat} {cs : List Char} {field : TextField}
    (read : field = .longMonth ∧ longName? Date.monthNames cs = some (i, rest) ∨
      field = .shortMonth ∧ shortName? Date.monthNames cs = some (i, rest)) :
    Reader.item? ⟨p, cs⟩ (.text field) = (p.setMonth ((i : Int) + 1)).map (⟨·, rest⟩) := by
  rcases read with ⟨rfl, read⟩ | ⟨rfl, read⟩ <;>
    simp only [Reader.item?, Reader.text?, Reader.setName, read, Option.map_some, set_some]

theorem item?_longWeekday {i : Nat} {cs : List Char} (read : longName? Date.weekdayNames cs = some (i, rest)) :
    Reader.item? ⟨p, cs⟩ (.text .longWeekday) = (p.setWeekday i).map (⟨·, rest⟩) := by
  simp only [Reader.item?, Reader.text?, Reader.setName, read, Option.map_some, set_some, Int.add_zero]

theorem item?_literal (t : List Char) : Reader.item? ⟨p, t ++ rest⟩ (.literal t) = some ⟨p, rest⟩ := by
  have starts : Text.startsWith (t ++ rest) t = true := List.isPrefixOf_iff_prefix.mpr (List.prefix_append ..)
  simp only [Reader.item?, starts, if_true, List.drop_left]

theorem item?_gap {c : Char} {more : List Char} (shown : isBlank c = false) :
    Reader.item? ⟨p, ' ' :: c :: more⟩ Item.gap = some ⟨p, c :: more⟩ := by
  have blank : isBlank ' ' = true := by decide
  simp [Reader.item?, Item.gap, blank, shown]

end

structure FourDigits (d : Date) : Prop where
  valid : Date.ofParts? d.year d.month d.day = some d
  least : 0 ≤ d.year
  most : d.year ≤ 9999

def dateNumber (d : Date) : NumberField → Nat
  | .year => d.year.toNat
  | .month => d.month
  | .day => d.day
  | .yearOfCentury => (d.year % 100).toNat
  | _ => 0

section
variable {d : Date}

theorem monthLength_le (y : Int) (m : Nat) : Date.monthLength y m ≤ 31 := by
  have each : ∀ l ∈ Date.monthLengths y, l ≤ 31 := by
    cases leap : Date.isLeap y <;> simp [Date.monthLengths, leap]
  unfold Date.monthLength
  cases found : (Date.monthLengths y)[m - 1]? with
  | none => exact Nat.zero_le _
  | some l => exact each l (List.mem_of_getElem? found)

theorem ofParts?_bounds {y : Int} {m n : Nat} (valid : Date.ofParts? y m n = some d) :
    d = ⟨y, m, n⟩ ∧ 1 ≤ m ∧ m ≤ 12 ∧ 1 ≤ n ∧ n ≤ 31 := by
  unfold Date.ofParts? at valid
  split at valid
  · rename_i bounds
    have longest := monthLength_le y m
    cases valid
    exact ⟨rfl, bounds.2.2.1, bounds.2.2.2.1, bounds.2.2.2.2.1, by omega⟩
  · cases valid

theorem weekday_lt (d : Date) : d.weekday < 7 := by
  unfold Date.weekday
  omega

theorem twoDigits_padded : ∀ n < 100, Item.twoDigits .zero n = paddedText 2 n := by decide

theorem yearText_padded {y : Int} (least : 0 ≤ y) (most : y ≤ 9999) :
    Item.yearText .zero y = paddedText 4 y.toNat := by
  have same : y.natAbs = y.toNat := by omega
  unfold Item.yearText Item.fill paddedText
  rw [if_pos ⟨least, most⟩, same]
  rfl

-- Each number of a date has the same text in all its patterns.
theorem numberText_padded (four : FourDigits d) {f : NumberField} (limit : f.width? = some width) :
    Item.numberText .zero (Moment.ofDate d) f = paddedText width (dateNumber d f) ∧ dateNumber d f < 10 ^ width ∧
      0 < width ∧ width ≤ 4 := by
  obtain ⟨-, first, last, start, final⟩ := ofParts?_bounds four.valid
  have least := four.least
  have most := four.most
  have two {n : Nat} (small : n < 100) : Item.twoDigits .zero n = paddedText 2 n ∧ n < 10 ^ 2 ∧ 0 < 2 ∧ 2 ≤ 4 :=
    ⟨twoDigits_padded n small, small, by decide, by decide⟩
  cases f <;> cases limit
  case year => exact ⟨yearText_padded least most, by rw [dateNumber]; omega, by decide, by decide⟩
  case month => exact two (show d.month < 100 by omega)
  case day => exact two (show d.day < 100 by omega)
  case yearOfCentury => exact two (show (d.year % 100).toNat < 100 by omega)
  all_goals exact two (show 0 < 100 by decide)

theorem write?_number (four : FourDigits d) {f : NumberField} (limit : f.width? = some width) :
    (Item.number f .zero).write? (Moment.ofDate d) = some (paddedText width (dateNumber d f)) :=
  congrArg some (numberText_padded four limit).1

theorem numberText_numeral (four : FourDigits d) {f : NumberField} (limit : f.width? = some width) :
    DigitsOf (Item.numberText .zero (Moment.ofDate d) f) width (dateNumber d f) := by
  obtain ⟨text, small, wide, _⟩ := numberText_padded four limit
  rw [text]
  exact paddedText_numeral wide small

end

-- A step of reading a date is taken, or there is no such date.
def Yields {α : Type} (d : Date) (step : Option α) (a : α) : Prop :=
  step = some a ∨ step = none ∧ Date.ofParts? d.year d.month d.day = none

namespace Yields
variable {α β : Type} {d : Date} {step : Option α} {a : α}

theorem map (taken : Yields d step a) (f : α → β) : Yields d (step.map f) (f a) := by
  rcases taken with rfl | ⟨rfl, none⟩
  · exact .inl rfl
  · exact .inr ⟨rfl, none⟩

theorem bind (taken : Yields d step a) {f : α → Option β} {b : β} (next : Yields d (f a) b) :
    Yields d (step >>= f) b := by
  rcases taken with rfl | ⟨rfl, none⟩
  · exact next
  · exact .inr ⟨rfl, none⟩

end Yields

-- The fields of a date that have been read.
structure Fields where
  year : Bool
  month : Bool
  day : Bool
  weekday : Bool

namespace Fields

def unread : Fields := ⟨false, false, false, false⟩

def read (r : Fields) : Item → Fields
  | .number .year _ => { r with year := true }
  | .number .month _ => { r with month := true }
  | .number .day _ => { r with day := true }
  | .text .longMonth => { r with month := true }
  | .text .shortMonth => { r with month := true }
  | .text .longWeekday => { r with weekday := true }
  | _ => r

def full (r : Fields) : Bool := r.year && r.month && r.day

def parts (r : Fields) (d : Date) : Parts :=
  { Parts.empty with
    year := cond r.year (some d.year) none
    month := cond r.month (some (d.month : Int)) none
    day := cond r.day (some (d.day : Int)) none
    weekday := cond r.weekday (some (d.weekday : Int)) none }

-- What has been read already is no other number.
theorem agree_read {low high n : Int} (least : low ≤ n) (most : n ≤ high) (b : Bool) :
    Parts.agree low high (cond b (some n) none) n = some (some n) := by
  cases b
  · exact if_pos ⟨least, most, .inl rfl⟩
  · exact if_pos ⟨least, most, .inr rfl⟩

theorem agree_outside {low high n : Int} (outside : ¬(low ≤ n ∧ n ≤ high)) (known : Option Int) :
    Parts.agree low high known n = none :=
  if_neg fun inside => outside ⟨inside.1, inside.2.1⟩

theorem put_yields {d : Date} (least : 0 ≤ d.year) (most : d.year ≤ 9999) {f : NumberField}
    (dated : f.dated = true) (r : Fields) (pad : Pad) :
    Yields d (f.put (r.parts d) (dateNumber d f)) ((r.read (.number f pad)).parts d) := by
  cases f <;> cases dated
  case year =>
    have same : (dateNumber d .year : Int) = d.year := Int.toNat_of_nonneg least
    left
    rw [NumberField.put, same, Parts.setYear, parts, agree_read (by omega) (by rw [Parts.maxInt32]; omega)]
    rfl
  case month =>
    rw [NumberField.put, Parts.setMonth, dateNumber, parts]
    by_cases inside : (1 : Int) ≤ d.month ∧ (d.month : Int) ≤ 12
    · left
      rw [agree_read inside.1 inside.2]
      rfl
    · right
      rw [agree_outside inside]
      exact ⟨rfl, if_neg (by omega)⟩
  case day =>
    rw [NumberField.put, Parts.setDay, dateNumber, parts]
    by_cases inside : (1 : Int) ≤ d.day ∧ (d.day : Int) ≤ 31
    · left
      rw [agree_read inside.1 inside.2]
      rfl
    · right
      have longest := monthLength_le d.year d.month
      rw [agree_outside inside]
      exact ⟨rfl, if_neg (by omega)⟩

theorem put_number {d : Date} (four : FourDigits d) {f : NumberField} (dated : f.dated = true) (r : Fields)
    (pad : Pad) : f.put (r.parts d) (dateNumber d f) = some ((r.read (.number f pad)).parts d) := by
  rcases put_yields four.least four.most dated r pad with taken | ⟨_, none⟩
  · exact taken
  · cases none.symm.trans four.valid

theorem set_weekday (r : Fields) (d : Date) :
    (r.parts d).setWeekday d.weekday = some ({ r with weekday := true : Fields }.parts d) := by
  have day := weekday_lt d
  rw [Parts.setWeekday, parts, agree_read (by omega) (by omega)]
  rfl

-- The parts of a date make up the date, if there is such a date.
theorem date?_parts {r : Fields} (full : r.full = true) (d : Date) :
    (r.parts d).date? = Date.ofParts? d.year d.month d.day := by
  obtain ⟨year, month, day, weekday⟩ := r
  simp only [Fields.full, Bool.and_eq_true] at full
  obtain ⟨⟨rfl, rfl⟩, rfl⟩ := full
  have unsaid (n : Int) : Parts.agrees none n = true := by simp [Parts.agrees]
  have said (n : Int) : Parts.agrees (some n) n = true := by simp [Parts.agrees]
  have unsaidFrom (y n : Int) : Parts.agreesFrom y none n = true := by simp [Parts.agreesFrom, Parts.agrees]
  cases valid : Date.ofParts? d.year d.month d.day with
  | none => simp [Parts.date?, Parts.date, Parts.fullYear, Parts.candidate, Parts.possible, valid, Fields.parts,
      Parts.empty, bind, Except.bind]
  | some e =>
    obtain rfl := (ofParts?_bounds valid).1
    cases weekday <;>
      simp [Parts.date?, Parts.date, Parts.fullYear, Parts.candidate, Parts.possible, valid, Parts.agreesYmd,
        Parts.agreesWeek, Parts.agreesOrdinal, Fields.parts, Parts.empty, unsaid, said, unsaidFrom, bind, Except.bind]

end Fields

-- Items whose text starts with something other than a blank.
def solidStart : List Item → Bool
  | .number _ _ :: _ => true
  | .text _ :: _ => true
  | _ => false

def gapStart : List Item → Bool
  | .blanks [' '] :: _ => true
  | _ => false

-- One item reads what another one has written before some others. A long name is also read from a short one.
def Item.rereads (next : List Item) : Item → Item → Bool
  | .number f .zero, .number g .zero => f == g && f.dated
  | .literal s, .literal t => s == t
  | .blanks [' '], .blanks [' '] => solidStart next
  | .text .longMonth, .text .longMonth => true
  | .text .longMonth, .text .shortMonth => gapStart next
  | .text .shortMonth, .text .shortMonth => true
  | .text .longWeekday, .text .longWeekday => true
  | _, _ => false

def rereads : List Item → List Item → Bool
  | [], [] => true
  | a :: as, b :: bs => Item.rereads bs a b && rereads as bs
  | _, _ => false

-- What a text starts with behind some items.
structure Starts (items : List Item) (text : List Char) : Prop where
  solid : solidStart items = true → ∃ c more, text = c :: more ∧ isBlank c = false
  gap : gapStart items = true → ∃ more, text = ' ' :: more

theorem Starts.number {ds rest : List Char} {width n : Nat} (numeral : DigitsOf ds width n) (wide : 0 < width)
    (f : NumberField) (pad : Pad) (next : List Item) : Starts (.number f pad :: next) (ds ++ rest) := by
  obtain ⟨c, more, rfl, digit⟩ := numeral.start wide
  exact ⟨fun _ => ⟨c, more ++ rest, rfl, Text.digit_visible digit⟩, nofun⟩

theorem Starts.shortName {names : List String} {i k : Nat} (apart : Apart names i) (some : 0 < k) (f : TextField)
    (next : List Item) (rest : List Char) : Starts (.text f :: next) ((nameOf names i).take k ++ rest) := by
  refine ⟨fun _ => ?_, nofun⟩
  cases name : nameOf names i with
  | nil =>
    have long := apart.long
    rw [name] at long
    cases long
  | cons c more =>
    obtain ⟨j, rfl⟩ := Nat.exists_eq_succ_of_ne_zero (Nat.ne_of_gt some)
    have shown := apart.shown
    rw [name, List.any_cons, Bool.or_eq_false_iff] at shown
    exact ⟨c, more.take j ++ rest, rfl, shown.1⟩

theorem Starts.longName {names : List String} {i : Nat} (apart : Apart names i) (f : TextField) (next : List Item)
    (rest : List Char) : Starts (.text f :: next) (nameOf names i ++ rest) := by
  have starts := Starts.shortName apart (Nat.lt_of_lt_of_le (by decide) apart.long) f next rest
  rwa [List.take_length] at starts

theorem Item.rereads_text {d : Date} (four : FourDigits d) {a b : Item} {next : List Item} {rest : List Char}
    (rereads : Item.rereads next a b = true) (starts : Starts next rest) :
    ∃ t, b.write? (Moment.ofDate d) = some t ∧ Starts (b :: next) (t ++ rest) ∧
      ∀ r : Fields, Reader.item? ⟨r.parts d, t ++ rest⟩ a = some ⟨(r.read a).parts d, rest⟩ := by
  obtain ⟨-, first, last, _, _⟩ := ofParts?_bounds four.valid
  have month : Apart Date.monthNames (d.month - 1) := months_apart _ (by omega)
  have monthRead (r : Fields) : (r.parts d).setMonth (((d.month - 1 : Nat) : Int) + 1) =
      some ((r.read (.number .month .zero)).parts d) := by
    have named : ((d.month - 1 : Nat) : Int) + 1 = dateNumber d .month := by
      rw [dateNumber]
      omega
    rw [named]
    exact Fields.put_number four (rfl : NumberField.month.dated = true) r .zero
  have day : Apart Date.weekdayNames d.weekday := weekdays_apart _ (weekday_lt d)
  unfold Item.rereads at rereads
  split at rereads
  · rename_i f g
    rw [Bool.and_eq_true, beq_iff_eq] at rereads
    obtain ⟨rfl, dated⟩ := rereads
    obtain ⟨width, limit⟩ : ∃ width, f.width? = some width := by
      cases f <;> cases dated <;> exact ⟨_, rfl⟩
    obtain ⟨_, small, wide, narrow⟩ := numberText_padded four limit
    have numeral := numberText_numeral four limit
    refine ⟨_, rfl, .number numeral wide _ _ _, ?_⟩
    intro r
    have least : dateNumber d f < 10000 := Nat.lt_of_lt_of_le small (Nat.pow_le_pow_right (by decide) narrow)
    rw [item?_number dated limit numeral wide (Nat.le_refl _) (.inl rfl) least, Fields.put_number four dated r .zero]
    rfl
  · obtain rfl := beq_iff_eq.mp rereads
    exact ⟨_, rfl, ⟨nofun, nofun⟩, fun _ => item?_literal _⟩
  · obtain ⟨c, more, rfl, shown⟩ := starts.solid rereads
    exact ⟨_, rfl, ⟨nofun, fun _ => ⟨_, rfl⟩⟩, fun _ => item?_gap shown⟩
  · refine ⟨nameOf Date.monthNames (d.month - 1), rfl, .longName month _ _ _, ?_⟩
    intro r
    rw [item?_monthName (.inl ⟨rfl, longName?_full month⟩), monthRead]
    rfl
  · obtain ⟨more, rfl⟩ := starts.gap rereads
    refine ⟨(nameOf Date.monthNames (d.month - 1)).take 3, rfl, .shortName month (by decide) _ _ _, ?_⟩
    intro r
    rw [item?_monthName (.inl ⟨rfl, longName?_short month⟩), monthRead]
    rfl
  · refine ⟨(nameOf Date.monthNames (d.month - 1)).take 3, rfl, .shortName month (by decide) _ _ _, ?_⟩
    intro r
    rw [item?_monthName (.inr ⟨rfl, shortName?_short month⟩), monthRead]
    rfl
  · refine ⟨nameOf Date.weekdayNames d.weekday, rfl, .longName day _ _ _, ?_⟩
    intro r
    rw [item?_longWeekday (longName?_full day), Fields.set_weekday]
    rfl
  · cases rereads

def written? (m : Moment) (items : List Item) : Option (List Char) := (items.mapM (Item.write? m)).map List.flatten

theorem write?_eq (m : Moment) (pattern : List Char) : write? m pattern = written? m (itemsOf pattern) := rfl

theorem written?_next {m : Moment} {it : Item} {text : List Char} (first : it.write? m = some text) (items : List Item) :
    written? m (it :: items) = (written? m items).map (text ++ ·) := by
  unfold written?
  rw [List.mapM_cons, first]
  cases items.mapM (Item.write? m) <;> rfl

theorem written?_cons {m : Moment} {it : Item} {items : List Item} {t text : List Char} (first : it.write? m = some t)
    (others : written? m items = some text) : written? m (it :: items) = some (t ++ text) := by
  rw [written?_next first, others, Option.map_some]

-- What has been written by some items is read back by items that read them one by one.
theorem rereads_text {d : Date} (four : FourDigits d) {as bs : List Item} (same : rereads as bs = true) :
    ∃ text, written? (Moment.ofDate d) bs = some text ∧ Starts bs text ∧
      ∀ f : Fields, as.foldlM Reader.item? ⟨f.parts d, text⟩ = some ⟨(as.foldl Fields.read f).parts d, []⟩ := by
  induction bs generalizing as with
  | nil =>
    cases as with
    | nil => exact ⟨[], rfl, ⟨nofun, nofun⟩, fun _ => rfl⟩
    | cons a as => cases same
  | cons b bs ih =>
    cases as with
    | nil => cases same
    | cons a as =>
      rw [rereads, Bool.and_eq_true] at same
      obtain ⟨text, others, starts, reads⟩ := ih same.2
      obtain ⟨t, first, start, step⟩ := Item.rereads_text four same.1 starts
      refine ⟨t ++ text, written?_cons first others, start, ?_⟩
      intro f
      rw [List.foldlM_cons, step f, List.foldl_cons]
      exact reads _

theorem partsBy?_text {d : Date} (four : FourDigits d) {pattern other : List Char}
    (same : rereads (itemsOf pattern) (itemsOf other) = true) :
    ∃ text, write? (Moment.ofDate d) other = some text ∧ Starts (itemsOf other) text ∧
      partsBy? pattern text = some (((itemsOf pattern).foldl Fields.read .unread).parts d) := by
  obtain ⟨text, written, starts, reads⟩ := rereads_text four same
  refine ⟨text, written, starts, ?_⟩
  have start : Reader.start text = ⟨Fields.unread.parts d, text⟩ := rfl
  unfold partsBy?
  rw [start, reads]
  rfl

def slashed : List NumberField → List Item
  | [] => []
  | [f] => [.number f .zero]
  | f :: g :: fs => .number f .zero :: .literal ['/'] :: slashed (g :: fs)

def slashedText : List Nat → List Char
  | [] => []
  | [n] => paddedText 2 n
  | n :: k :: ns => paddedText 2 n ++ '/' :: slashedText (k :: ns)

section
variable {d : Date} {fs : List NumberField}

theorem written?_slashed (four : FourDigits d) (two : ∀ f ∈ fs, f.width? = some 2) :
    written? (Moment.ofDate d) (slashed fs) = some (slashedText (fs.map (dateNumber d))) := by
  fun_induction slashed fs with
  | case1 => rfl
  | case2 f =>
    have nothing : written? (Moment.ofDate d) [] = some [] := rfl
    rw [written?_cons (write?_number four (two f (List.mem_cons_self ..))) nothing, List.append_nil]
    rfl
  | case3 f g fs ih =>
    have others := ih fun k member => two k (List.mem_cons_of_mem _ member)
    have stroke : (Item.literal ['/']).write? (Moment.ofDate d) = some ['/'] := rfl
    rw [written?_cons (write?_number four (two f (List.mem_cons_self ..))) (written?_cons stroke others)]
    rfl

theorem item?_twoDigits (least : 0 ≤ d.year) (most : d.year ≤ 9999) {f : NumberField} (dated : f.dated = true)
    (small : dateNumber d f < 100) (r : Fields) (rest : List Char)
    (ends : ∀ c more, rest = c :: more → isDigit c = false) :
    Yields d (Reader.item? ⟨r.parts d, paddedText 2 (dateNumber d f) ++ rest⟩ (.number f .zero))
      ⟨(r.read (.number f .zero)).parts d, rest⟩ := by
  obtain ⟨limit, limited, within⟩ : ∃ limit, f.width? = some limit ∧ 2 ≤ limit := by
    cases f <;> cases dated <;> exact ⟨_, rfl, by decide⟩
  have numeral : DigitsOf (paddedText 2 (dateNumber d f)) 2 (dateNumber d f) := paddedText_numeral (by decide) small
  rw [item?_number dated limited numeral (by decide) within (.inr ends) (by omega)]
  exact (Fields.put_yields least most dated r .zero).map _

-- Two digits do for any number of a date, whatever the most is.
theorem slashed_reads (least : 0 ≤ d.year) (most : d.year ≤ 9999) (dated : ∀ f ∈ fs, f.dated = true)
    (small : ∀ f ∈ fs, dateNumber d f < 100) (r : Fields) :
    Yields d ((slashed fs).foldlM Reader.item? ⟨r.parts d, slashedText (fs.map (dateNumber d))⟩)
      ⟨((slashed fs).foldl Fields.read r).parts d, []⟩ := by
  fun_induction slashed fs generalizing r with
  | case1 => exact .inl rfl
  | case2 f =>
    have last := item?_twoDigits least most (dated f (List.mem_cons_self ..)) (small f (List.mem_cons_self ..)) r []
      nofun
    rw [List.append_nil] at last
    exact last.bind (.inl rfl)
  | case3 f g fs ih =>
    have stop (rest : List Char) : ∀ c more, '/' :: rest = c :: more → isDigit c = false := by
      rintro c more same
      cases same
      rfl
    have first := item?_twoDigits least most (dated f (List.mem_cons_self ..)) (small f (List.mem_cons_self ..)) r _
      (stop (slashedText ((g :: fs).map (dateNumber d))))
    have others := ih (fun k member => dated k (List.mem_cons_of_mem _ member))
      (fun k member => small k (List.mem_cons_of_mem _ member)) (r.read (.number f .zero))
    refine first.bind ?_
    rw [List.foldlM_cons]
    exact others

theorem date?_slashed (least : 0 ≤ d.year) (most : d.year ≤ 9999) (dated : ∀ f ∈ fs, f.dated = true)
    (small : ∀ f ∈ fs, dateNumber d f < 100) {pattern : List Char} (items : itemsOf pattern = slashed fs)
    (full : ((slashed fs).foldl Fields.read .unread).full = true) :
    (partsBy? pattern (slashedText (fs.map (dateNumber d)))).bind Parts.date? =
      Date.ofParts? d.year d.month d.day := by
  have start (text : List Char) : Reader.start text = ⟨Fields.unread.parts d, text⟩ := rfl
  unfold partsBy?
  rw [items, start]
  rcases slashed_reads least most dated small .unread with read | ⟨failed, none⟩
  · rw [read]
    exact Fields.date?_parts full d
  · rw [failed, none]
    rfl

end
end TidyRows.Calendar
