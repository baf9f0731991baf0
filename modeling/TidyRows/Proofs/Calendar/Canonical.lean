import TidyRows.Proofs.Calendar.Days
import TidyRows.Proofs.Calendar.Shape
namespace TidyRows.Calendar
open Unicode (isBlank)
open Calendar.Item (isoDate zeros)

def dateText (d : Date) : List Char :=
  Item.yearText .zero d.year ++ '-' :: (paddedText 2 d.month ++ '-' :: paddedText 2 d.day)

def timeText (c : Clock) : List Char :=
  'T' :: (paddedText 2 c.hour ++ ':' :: (paddedText 2 c.minute ++ ':' :: (paddedText 2 c.second ++ ['Z'])))

section
variable {d : Date} {m : Moment} {ds rest : List Char} {width n : Nat} {p : Parts}

theorem valid_small (valid : d.Valid) : d.month < 100 ∧ d.day < 100 := by
  obtain ⟨_, _, last, _, final⟩ := ofParts?_bounds valid
  omega

theorem universalText_eq (sound : m.Sound) : universalText m = dateText m.date ++ timeText m.clock := by
  obtain ⟨month, day⟩ := valid_small sound.date
  have hour := sound.hour
  have minute := sound.minute
  have second := sound.second
  unfold universalText dateText timeText
  dsimp only
  rw [twoDigits_padded _ month, twoDigits_padded _ day, twoDigits_padded _ (by omega : m.clock.hour < 100),
    twoDigits_padded _ (by omega : m.clock.minute < 100), twoDigits_padded _ (by omega : m.clock.second < 100)]
  simp only [List.append_assoc, List.cons_append]

def yearSign (y : Int) : List Char := if 0 ≤ y ∧ y ≤ 9999 then [] else [if y < 0 then '-' else '+']

theorem yearText_signed (y : Int) : Item.yearText .zero y = yearSign y ++ paddedText 4 y.natAbs := by
  unfold Item.yearText Item.fill paddedText yearSign
  split <;> simp

theorem paddedText_filled (width n : Nat) : 0 < (paddedText width n).length := by
  have some : (natText n).length ≠ 0 := fun none => Nat.toDigits_ne_nil (List.length_eq_zero_iff.mp none)
  rw [paddedText, List.length_append]
  omega

theorem signed?_yearText {y : Int} (early : Date.minYear ≤ y) (late : y ≤ Date.maxYear) (rest : List Char) :
    signed? 4 (Item.yearText .zero y ++ '-' :: rest) = some (y, '-' :: rest) := by
  have small : y.natAbs < 0x8000000000000000 := by
    unfold Date.minYear at early
    unfold Date.maxYear at late
    omega
  have stop : ∀ c more, '-' :: rest = c :: more → isDigit c = false := by
    rintro c more same
    cases same
    rfl
  rw [yearText_signed]
  unfold yearSign
  split
  · rename_i four
    have numeral : DigitsOf (paddedText 4 y.natAbs) 4 y.natAbs := paddedText_numeral (by decide) (by omega)
    rw [List.nil_append, signed?_numeral numeral (by decide) (Nat.le_refl 4) (.inl rfl) small]
    rw [Int.natAbs_of_nonneg four.1]
  · have numeral := paddedText_digits 4 y.natAbs
    have within : (paddedText 4 y.natAbs).length ≤ (paddedText 4 y.natAbs ++ '-' :: rest).length := by
      rw [List.length_append]
      exact Nat.le_add_right _ _
    have read : allDigits? 1 (paddedText 4 y.natAbs ++ '-' :: rest) = some ((y.natAbs : Int), '-' :: rest) :=
      digits?_numeral numeral (paddedText_filled 4 _) within (.inr stop) small
    by_cases negative : y < 0
    · have value : -(y.natAbs : Int) = y := by omega
      rw [if_pos negative]
      show (allDigits? 1 (paddedText 4 y.natAbs ++ '-' :: rest)).map (fun x => (-x.1, x.2)) = _
      rw [read, Option.map_some, value]
    · have value : (y.natAbs : Int) = y := by omega
      rw [if_neg negative]
      show allDigits? 1 (paddedText 4 y.natAbs ++ '-' :: rest) = _
      rw [read, value]

def told : Fields := ⟨true, true, true, false⟩

theorem yearText_shown (y : Int) : ∃ c more, Item.yearText .zero y = c :: more ∧ isBlank c = false := by
  rw [yearText_signed]
  unfold yearSign
  split
  · obtain ⟨c, more, text, digit⟩ := (paddedText_digits 4 y.natAbs).start (paddedText_filled 4 _)
    exact ⟨c, more, text, Text.digit_visible digit⟩
  · refine ⟨_, _, rfl, ?_⟩
    split <;> decide

theorem agree_unknown {low high n : Int} (least : low ≤ n) (most : n ≤ high) :
    Parts.agree low high none n = some (some n) := Fields.agree_read least most false

def yearTold (d : Date) : Parts := { Parts.empty with year := some d.year }

def monthTold (d : Date) : Parts := { yearTold d with month := some (d.month : Int) }

-- Each part of a date is put where nothing is known yet.
theorem date_puts (valid : d.Valid) : Parts.empty.setYear d.year = some (yearTold d) ∧
    (yearTold d).setMonth d.month = some (monthTold d) ∧ (monthTold d).setDay d.day = some (told.parts d) := by
  obtain ⟨early, late, first, last, least, within⟩ := Date.valid_iff.mp valid
  have longest := monthLength_le d.year d.month
  unfold Date.minYear at early
  unfold Date.maxYear at late
  refine ⟨congrArg (Option.map _) (agree_unknown (by omega) ?_), congrArg (Option.map _) (agree_unknown ?_ ?_),
    congrArg (Option.map _) (agree_unknown ?_ ?_)⟩
  · rw [Parts.maxInt32]
    omega
  all_goals omega

theorem item?_year (valid : d.Valid) (rest : List Char) :
    Reader.item? ⟨.empty, Item.yearText .zero d.year ++ '-' :: rest⟩ (zeros .year) = some ⟨yearTold d, '-' :: rest⟩ := by
  obtain ⟨early, late, _⟩ := Date.valid_iff.mp valid
  obtain ⟨c, more, text, shown⟩ := yearText_shown d.year
  have unblanked : (Item.yearText .zero d.year ++ '-' :: rest).dropWhile isBlank =
      Item.yearText .zero d.year ++ '-' :: rest := by
    rw [text, List.cons_append, List.dropWhile_cons_of_neg (by simp [shown])]
  simp only [zeros, Reader.item?, Reader.number?, unblanked, signed?_yearText early late, set_some, (date_puts valid).1,
    Option.map_some]

theorem item?_two {f : NumberField} (dated : f.dated = true) (limit : f.width? = some 2) (small : n < 100)
    (rest : List Char) : Reader.item? ⟨p, paddedText 2 n ++ rest⟩ (zeros f) = (f.put p n).map (⟨·, rest⟩) :=
  item?_number dated limit (paddedText_numeral (by decide) small) (by decide) (Nat.le_refl 2) (.inl rfl) (by omega)
    .zero

theorem date_reads (valid : d.Valid) (more : List Calendar.Item) (rest : List Char) :
    (isoDate ++ more).foldlM Reader.item? (Reader.start (dateText d ++ rest)) =
      more.foldlM Reader.item? ⟨told.parts d, rest⟩ := by
  obtain ⟨month, day⟩ := valid_small valid
  obtain ⟨_, putMonth, putDay⟩ := date_puts valid
  have text : dateText d ++ rest = Item.yearText .zero d.year ++ '-' :: (paddedText 2 d.month ++ '-' ::
      (paddedText 2 d.day ++ rest)) := by
    simp only [dateText, List.append_assoc, List.cons_append]
  have monthPut : NumberField.put (yearTold d) d.month .month = some (monthTold d) := putMonth
  have dayPut : NumberField.put (monthTold d) d.day .day = some (told.parts d) := putDay
  have dash (p : Parts) (rest : List Char) : Reader.item? ⟨p, '-' :: rest⟩ (Item.mark '-') = some ⟨p, rest⟩ :=
    item?_literal ['-']
  rw [text]
  simp only [isoDate, Reader.start, List.cons_append, List.nil_append, List.foldlM_cons, item?_year valid, dash,
    item?_two (rfl : NumberField.month.dated = true) rfl month, item?_two (rfl : NumberField.day.dated = true) rfl day,
    monthPut, dayPut, Option.map_some, Option.bind_eq_bind, Option.bind_some]

theorem partsBy?_date (valid : d.Valid) {pattern : List Char} {more : List Calendar.Item}
    (form : itemsOf pattern = isoDate ++ more) (rest : List Char) :
    partsBy? pattern (dateText d ++ rest) = (more.foldlM Reader.item? ⟨told.parts d, rest⟩).bind Reader.finished? := by
  unfold partsBy?
  rw [form, date_reads valid]
  rfl

end

def markedItems (l : List (Char × NumberField × Nat)) : List Calendar.Item :=
  l.flatMap fun part => [.literal [part.1], zeros part.2.1]

def markedNumbers (l : List (Char × NumberField × Nat)) : List Char :=
  l.flatMap fun part => part.1 :: paddedText 2 part.2.2

section
variable {d : Date} {m : Moment} {text rest : List Char} {n : Nat} {p : Parts} {l : List (Char × NumberField × Nat)}

theorem item?_two_rest {f : NumberField} (limit : f.width? = some 2) (small : n < 100) {next : Reader}
    (read : Reader.item? ⟨p, paddedText 2 n ++ rest⟩ (zeros f) = some next) : next.rest = rest := by
  have numeral : DigitsOf (paddedText 2 n) 2 n := paddedText_numeral (by decide) small
  have word : n < 0x8000000000000000 := Nat.lt_trans small (by decide)
  obtain ⟨k, known⟩ := number?_read limit read
  dsimp only at known
  rw [numeral.unblanked (by decide), digits?_numeral numeral (by decide) (Nat.le_refl 2) (.inl rfl) word,
    signed?_numeral numeral (by decide) (Nat.le_refl 2) (.inl rfl) word] at known
  rcases known with same | same
  · cases same
    rfl
  · cases same
    rfl

theorem marked_reads (two : ∀ part ∈ l, part.2.1.width? = some 2 ∧ part.2.2 < 100) {last : Reader}
    (read : (markedItems l).foldlM Reader.item? ⟨p, markedNumbers l ++ rest⟩ = some last) : last.rest = rest := by
  induction l generalizing p with
  | nil =>
    cases read
    rfl
  | cons part l ih =>
    obtain ⟨c, f, n⟩ := part
    obtain ⟨limit, small⟩ := two _ (List.mem_cons_self ..)
    have text : markedNumbers ((c, f, n) :: l) ++ rest = [c] ++ (paddedText 2 n ++ (markedNumbers l ++ rest)) := by
      simp [markedNumbers]
    have items : markedItems ((c, f, n) :: l) = .literal [c] :: zeros f :: markedItems l := rfl
    rw [text, items, List.foldlM_cons, item?_literal, Option.bind_eq_bind, Option.bind_some, List.foldlM_cons] at read
    obtain ⟨next, number, others⟩ := Option.bind_eq_some_iff.mp read
    have left := item?_two_rest limit small number
    obtain ⟨q, left'⟩ := next
    cases left
    exact ih (fun part member => two part (List.mem_cons_of_mem _ member)) others

-- A form with marked numbers behind the date gets no further than what follows them.
theorem partsBy?_marked (valid : d.Valid) (two : ∀ part ∈ l, part.2.1.width? = some 2 ∧ part.2.2 < 100)
    {pattern : List Char} {tail : List Calendar.Item} (form : itemsOf pattern = isoDate ++ (markedItems l ++ tail))
    (stuck : ∀ p : Parts, (tail.foldlM Reader.item? ⟨p, rest⟩).bind Reader.finished? = none) :
    partsBy? pattern (dateText d ++ (markedNumbers l ++ rest)) = none := by
  rw [partsBy?_date valid form, List.foldlM_append, Option.bind_eq_none_iff]
  intro last read
  obtain ⟨next, numbers, others⟩ := Option.bind_eq_some_iff.mp read
  have left := marked_reads two numbers
  obtain ⟨q, left'⟩ := next
  cases left
  exact Option.bind_eq_none_iff.mp (stuck q) last others

theorem partsBy?_unstruck {pattern : List Char} (form : [zeros .month, .literal ['/']] <+: itemsOf pattern)
    (unstruck : '/' ∉ text) : partsBy? pattern text = none := by
  obtain ⟨more, form⟩ := form
  rw [Option.eq_none_iff_forall_ne_some]
  intro parts read
  obtain ⟨last, through, _⟩ := Option.bind_eq_some_iff.mp read
  rw [← form, List.cons_append, List.cons_append, List.nil_append, List.foldlM_cons] at through
  obtain ⟨next, number, through⟩ := Option.bind_eq_some_iff.mp through
  rw [List.foldlM_cons] at through
  obtain ⟨after, stroke, _⟩ := Option.bind_eq_some_iff.mp through
  obtain ⟨k, digits⟩ := set_read number
  obtain ⟨_, left⟩ := digits?_read digits
  simp only [Reader.item?] at stroke
  split at stroke
  · rename_i starts
    obtain ⟨others, same⟩ := List.isPrefixOf_iff_prefix.mp starts
    have member : '/' ∈ next.rest := same ▸ List.mem_cons_self ..
    rw [left] at member
    exact unstruck ((List.dropWhile_sublist _).subset (List.mem_of_mem_drop member))
  · cases stroke

theorem yearText_chars {y : Int} {c : Char} (member : c ∈ Item.yearText .zero y) :
    c = '-' ∨ c = '+' ∨ isDigit c = true := by
  rw [yearText_signed] at member
  rcases List.mem_append.mp member with sign | digit
  · unfold yearSign at sign
    split at sign
    · cases sign
    · rw [List.mem_singleton] at sign
      split at sign
      · exact .inl sign
      · exact .inr (.inl sign)
  · exact .inr (.inr ((paddedText_digits 4 y.natAbs).digits c digit))

theorem dateText_chars {d : Date} {c : Char} (member : c ∈ dateText d) : c = '-' ∨ c = '+' ∨ isDigit c = true := by
  have two {n : Nat} (member : c ∈ paddedText 2 n) : isDigit c = true := (paddedText_digits 2 n).digits c member
  simp only [dateText, List.mem_append, List.mem_cons] at member
  rcases member with year | dash | month | dash | day
  · exact yearText_chars year
  · exact .inl dash
  · exact .inr (.inr (two month))
  · exact .inl dash
  · exact .inr (.inr (two day))

theorem timeText_chars {t : Clock} {c : Char} (member : c ∈ timeText t) :
    c = 'T' ∨ c = ':' ∨ c = 'Z' ∨ isDigit c = true := by
  have two {n : Nat} (member : c ∈ paddedText 2 n) : isDigit c = true := (paddedText_digits 2 n).digits c member
  simp only [timeText, List.mem_append, List.mem_cons, List.not_mem_nil, or_false] at member
  rcases member with mark | hour | colon | minute | colon | second | zulu
  · exact .inl mark
  · exact .inr (.inr (.inr (two hour)))
  · exact .inr (.inl colon)
  · exact .inr (.inr (.inr (two minute)))
  · exact .inr (.inl colon)
  · exact .inr (.inr (.inr (two second)))
  · exact .inr (.inr (.inl zulu))

theorem dateText_unstruck (d : Date) : '/' ∉ dateText d := fun member => by
  have other := dateText_chars member
  revert other
  decide

theorem timeText_unstruck (t : Clock) : '/' ∉ timeText t := fun member => by
  have other := timeText_chars member
  revert other
  decide

-- A timestamp has no sign, and goes on after the date.
theorem partsOfTimestamp?_sign {c : Char} (sign : isDigit c = false) (rest : List Char) :
    partsOfTimestamp? (c :: rest) = none := by
  rw [Option.eq_none_iff_forall_ne_some]
  intro parts read
  obtain ⟨last, through, _⟩ := Option.bind_eq_some_iff.mp read
  have digits := (timestamp?_read through).2
  rw [List.take_succ_cons, List.takeWhile_cons_of_neg (by simp [sign])] at digits
  cases digits

theorem signed_start {d : Date} (far : ¬(0 ≤ d.year ∧ d.year ≤ 9999)) (rest : List Char) :
    ∃ c more, dateText d ++ rest = c :: more ∧ (c = '+' ∨ c = '-') := by
  unfold dateText
  rw [yearText_signed, yearSign, if_neg far]
  refine ⟨_, _, rfl, ?_⟩
  split
  · exact .inr rfl
  · exact .inl rfl

theorem partsOfTimestamp?_date (valid : d.Valid) : partsOfTimestamp? (dateText d) = none := by
  by_cases near : 0 ≤ d.year ∧ d.year ≤ 9999
  · rw [Option.eq_none_iff_forall_ne_some]
    intro parts read
    obtain ⟨last, through, _⟩ := Option.bind_eq_some_iff.mp read
    obtain ⟨month, day⟩ := valid_small valid
    have year : (Item.yearText .zero d.year).length = 4 := by
      rw [yearText_padded near.1 near.2]
      exact (paddedText_numeral (by decide) (by omega)).width
    have two {n : Nat} (small : n < 100) : (paddedText 2 n).length = 2 := (paddedText_numeral (by decide) small).width
    have length : (dateText d).length = 10 := by
      simp only [dateText, List.length_append, List.length_cons, year, two month, two day]
    exact absurd (timestamp?_read through).1 (by rw [length]; decide)
  · obtain ⟨c, more, text, sign⟩ := signed_start near []
    rw [List.append_nil] at text
    rw [text]
    refine partsOfTimestamp?_sign ?_ more
    rcases sign with rfl | rfl <;> decide

theorem weekday_unsigned {c : Char} (sign : c = '+' ∨ c = '-') (rest : List Char) :
    shortName? Date.weekdayNames (c :: rest) = none := by
  have named : ∀ n ∈ Date.weekdayNames, ((n.toList.take 3).map lowerAscii).head? ≠ none ∧
      ((n.toList.take 3).map lowerAscii).head? ≠ some '+' ∧ ((n.toList.take 3).map lowerAscii).head? ≠ some '-' := by
    decide
  rw [Option.eq_none_iff_forall_ne_some]
  rintro ⟨place, left⟩ read
  obtain ⟨_, n, found, others, same⟩ := shortName?_begins read
  obtain ⟨filled, plus, minus⟩ := named n (List.mem_of_getElem? found)
  cases start : (n.toList.take 3).map lowerAscii with
  | nil =>
    rw [start] at filled
    exact filled rfl
  | cons k more =>
    rw [start] at same plus minus
    have first : k = lowerAscii c := (List.cons.inj same).1
    rcases sign with rfl | rfl
    · exact plus (congrArg some first)
    · exact minus (congrArg some first)

theorem partsOfMail?_sign {c : Char} (sign : c = '+' ∨ c = '-') (rest : List Char) :
    partsOfMail? (c :: rest) = none := by
  have shown : isBlank c = false := by rcases sign with rfl | rfl <;> decide
  have other : isDigit c = false := by rcases sign with rfl | rfl <;> decide
  have trimmed : (Reader.start (c :: rest)).trimmed = Reader.start (c :: rest) := by
    unfold Reader.trimmed Reader.start
    dsimp only
    rw [List.dropWhile_cons_of_neg (by simp [shown])]
  rw [Option.eq_none_iff_forall_ne_some]
  intro parts read
  obtain ⟨last, through, _⟩ := Option.bind_eq_some_iff.mp read
  unfold Reader.mailDate? at through
  rw [trimmed] at through
  simp only [Reader.start, weekday_unsigned sign] at through trimmed
  obtain ⟨first, named, through⟩ := Option.bind_eq_some_iff.mp through
  cases named
  obtain ⟨second, day, _⟩ := Option.bind_eq_some_iff.mp through
  obtain ⟨n, digits⟩ := set_read day
  rw [trimmed] at digits
  have some := (digits?_read digits).1
  rw [List.take_succ_cons, List.takeWhile_cons_of_neg (by simp [other])] at some
  cases some

theorem digits?_full {width : Nat} (wide : 0 < width) (fits : n < 10 ^ width) (small : n < 0x8000000000000000)
    (rest : List Char) : digits? width width (paddedText width n ++ rest) = some ((n : Int), rest) :=
  digits?_enough (paddedText_numeral wide fits) (Nat.le_refl _) (Nat.le_refl _) (.inl rfl) small

theorem skip_mark (p : Parts) (c : Char) (rest : List Char) : Reader.skip ⟨p, c :: rest⟩ c = some ⟨p, rest⟩ := by
  simp [Reader.skip, char?]

theorem setHour_unknown {q : Parts} {h : Nat} (unknown : q.half = none ∧ q.hourOfHalf = none) (small : h < 24) :
    q.setHour h = some { q with half := some ((h : Int) / 12), hourOfHalf := some ((h : Int) % 12) } := by
  unfold Parts.setHour Parts.setHalf Parts.setHourOfHalf
  rw [if_pos ⟨by omega, by omega⟩, unknown.1, agree_unknown (by omega) (by omega), Option.map_some, Option.bind_some]
  dsimp only
  rw [unknown.2, agree_unknown (by omega) (by omega), Option.map_some]

def hourTold (m : Moment) : Parts :=
  { told.parts m.date with half := some ((m.clock.hour : Int) / 12), hourOfHalf := some ((m.clock.hour : Int) % 12) }

def minuteTold (m : Moment) : Parts := { hourTold m with minute := some (m.clock.minute : Int) }

def secondTold (m : Moment) : Parts := { minuteTold m with second := some (m.clock.second : Int) }

def toldParts (m : Moment) : Parts := { secondTold m with offset := some 0 }

theorem clock_puts (sound : m.Sound) : (told.parts m.date).setHour m.clock.hour = some (hourTold m) ∧
    (hourTold m).setMinute m.clock.minute = some (minuteTold m) ∧
    (minuteTold m).setSecond m.clock.second = some (secondTold m) := by
  have minute := sound.minute
  have second := sound.second
  exact ⟨setHour_unknown ⟨rfl, rfl⟩ sound.hour, congrArg (Option.map _) (agree_unknown (by omega) (by omega)),
    congrArg (Option.map _) (agree_unknown (by omega) (by omega))⟩

theorem partsOfTimestamp?_universal (sound : m.Sound) (least : 0 ≤ m.date.year) (most : m.date.year ≤ 9999) :
    partsOfTimestamp? (universalText m) = some (toldParts m) := by
  obtain ⟨month, day⟩ := valid_small sound.date
  obtain ⟨putYear, putMonth, putDay⟩ := date_puts sound.date
  obtain ⟨putHour, putMinute, putSecond⟩ := clock_puts sound
  have putOffset : (secondTold m).setOffset 0 = some (toldParts m) := rfl
  have hour := sound.hour
  have minute := sound.minute
  have second := sound.second
  have four (rest : List Char) : digits? 4 4 (Item.yearText .zero m.date.year ++ rest) = some (m.date.year, rest) := by
    rw [yearText_padded least most, digits?_full (by decide) (by omega) (by omega), Int.toNat_of_nonneg least]
  have two {n : Nat} (small : n < 100) (rest : List Char) := digits?_full (n := n) two_pos small (by omega) rest
  have zulu : offset? colonOffset ['Z'] = some (0, []) := by decide
  have pointless (p : Parts) : Reader.afterPoint ⟨p, ['Z']⟩ fraction? = some ⟨p, ['Z']⟩ := rfl
  have near : (0 : Int).natAbs < 86400 := by decide
  have read : (Reader.start (universalText m)).timestamp? = some ⟨toldParts m, []⟩ := by
    rw [universalText_eq sound]
    simp only [dateText, timeText, List.append_assoc, List.cons_append, Reader.start, Reader.timestamp?, four, two month,
      two day, two (by omega : m.clock.hour < 100), two (by omega : m.clock.minute < 100),
      two (by omega : m.clock.second < 100), set_some, skip_mark, putYear, putMonth, putDay, putHour, putMinute,
      putSecond, putOffset, Option.map_some, Option.bind_eq_bind, Option.bind_some, Option.some_or, pointless, zulu,
      if_pos near]
  unfold partsOfTimestamp?
  rw [read]
  rfl

theorem toldParts_universal (sound : m.Sound) :
    (toldParts m).universal = some { m with clock := { m.clock with nanosecond := 0 } } := by
  obtain ⟨d, c⟩ := m
  have date : (toldParts ⟨d, c⟩).date = .ok d := by
    have known : (told.parts d).date? = some d := (Fields.date?_parts rfl d).trans sound.date
    unfold Parts.date? at known
    split at known
    · rename_i same
      cases known
      exact same
    · cases known
  have clock : (toldParts ⟨d, c⟩).clock = .ok { c with nanosecond := 0 } := by
    have hour : (12 * ((c.hour : Int) / 12) + (c.hour : Int) % 12).toNat = c.hour := by omega
    show Except.ok (Clock.mk (12 * ((c.hour : Int) / 12) + (c.hour : Int) % 12).toNat c.minute c.second 0) = _
    rw [hour]
  have moment : (toldParts ⟨d, c⟩).momentAt 0 = some ⟨d, { c with nanosecond := 0 }⟩ := by
    unfold Parts.momentAt
    rw [date, clock]
    rfl
  have offset : (toldParts ⟨d, c⟩).withOffset = some (⟨d, { c with nanosecond := 0 }⟩, 0) := by
    unfold Parts.withOffset
    show ((toldParts ⟨d, c⟩).momentAt 0 >>= fun m =>
      if -Parts.maxOffset < (0 : Int) ∧ 0 < Parts.maxOffset then some (m, 0) else none) = _
    rw [moment]
    rfl
  unfold Parts.universal
  rw [offset]
  exact Moment.shift?_zero ⟨sound.date, sound.hour, sound.minute, sound.second⟩

end
end TidyRows.Calendar
