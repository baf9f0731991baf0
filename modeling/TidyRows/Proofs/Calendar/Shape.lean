import Mathlib.Data.List.Forall2
import TidyRows.Proofs.Calendar.Reading
namespace TidyRows.Calendar
open Unicode (isBlank)
open Item (nameOf)

-- No letter stands for any digit.
abbrev Glyph := Option Char

abbrev Shape := List Glyph

namespace Glyph

def Fits (g : Glyph) (c : Char) : Prop :=
  match g with
  | none => isDigit c = true
  | some k => c = k

def digit : Glyph → Bool
  | none => true
  | some k => isDigit k

def blank : Glyph → Bool
  | none => false
  | some k => isBlank k

def could : Glyph → Char → Bool
  | none, c => isDigit c
  | some k, c => k == c

variable {g : Glyph} {c : Char}

theorem Fits.digit_eq (fits : g.Fits c) : isDigit c = g.digit := by
  cases g with
  | none => exact fits
  | some k => exact congrArg isDigit fits

theorem Fits.blank_eq (fits : g.Fits c) : isBlank c = g.blank := by
  cases g with
  | none => exact Text.digit_visible fits
  | some k => exact congrArg isBlank fits

theorem Fits.could (fits : g.Fits c) : g.could c = true := by
  cases g with
  | none => exact fits
  | some k => exact beq_iff_eq.mpr (Eq.symm fits)

theorem lowerAscii_digit (digit : isDigit c = true) : lowerAscii c = c := by
  simp only [isDigit, Bool.and_eq_true, decide_eq_true_eq] at digit
  have high : c.toNat ≤ 57 := digit.2
  unfold lowerAscii
  rw [if_neg]
  simp only [Bool.and_eq_true, decide_eq_true_eq, not_and]
  intro low
  have least : 65 ≤ c.toNat := low
  omega

theorem Fits.lower (fits : g.Fits c) : Fits (g.map lowerAscii) (lowerAscii c) := by
  cases g with
  | none => exact (lowerAscii_digit fits).symm ▸ fits
  | some k => exact congrArg lowerAscii fits

end Glyph

namespace Shape

def Matches (s : Shape) (text : List Char) : Prop := List.Forall₂ Glyph.Fits s text

def begins : Shape → List Char → Bool
  | _, [] => true
  | [], _ :: _ => false
  | g :: s, c :: t => g.could c && begins s t

def lower (s : Shape) : Shape := s.map (Option.map lowerAscii)

variable {s : Shape} {text : List Char}

theorem Matches.drop (same : Matches s text) (n : Nat) : Matches (s.drop n) (text.drop n) := List.forall₂_drop n same

theorem Matches.lower (same : Matches s text) : Matches s.lower (text.map lowerAscii) := by
  induction same with
  | nil => exact .nil
  | cons fits _ ih => exact .cons fits.lower ih

theorem Matches.begins {t : List Char} (same : Matches s text) (start : t <+: text) : begins s t = true := by
  induction same generalizing t with
  | nil =>
    rw [List.prefix_nil] at start
    subst start
    rfl
  | @cons g c s text fits _ ih =>
    cases t with
    | nil => rfl
    | cons d t =>
      obtain ⟨rfl, others⟩ := List.cons_prefix_cons.mp start
      exact Bool.and_eq_true_iff.mpr ⟨fits.could, ih others⟩

theorem Matches.unblanked (same : Matches s text) : Matches (s.dropWhile Glyph.blank) (text.dropWhile isBlank) := by
  induction same with
  | nil => exact .nil
  | @cons g c s text fits rest ih =>
    rw [List.dropWhile_cons, List.dropWhile_cons, fits.blank_eq]
    split
    · exact ih
    · exact .cons fits rest

theorem Matches.digits (same : Matches s text) (most : Nat) :
    ((text.take most).takeWhile isDigit).length = ((s.take most).takeWhile Glyph.digit).length := by
  induction same generalizing most with
  | nil => simp
  | @cons g c s text fits rest ih =>
    cases most with
    | zero => rfl
    | succ most =>
      rw [List.take_succ_cons, List.take_succ_cons, List.takeWhile_cons, List.takeWhile_cons, fits.digit_eq]
      split
      · rw [List.length_cons, List.length_cons, ih]
      · rfl

end Shape

namespace Item

-- After a long name there may be the rest of it or not.
def longRests (names : List String) (s : Shape) : List Shape :=
  names.flatMap fun n =>
    if s.lower.begins ((n.toList.take 3).map lowerAscii) then [s.drop 3, s.drop (3 + (n.toList.drop 3).length)] else []

def shortRests (names : List String) (s : Shape) : List Shape :=
  if names.any fun n => s.lower.begins ((n.toList.take 3).map lowerAscii) then [s.drop 3] else []

-- There is no telling how far a sign reaches.
def numberRests? (most : Nat) (s : Shape) : Option (List Shape) :=
  match s with
  | some '-' :: _ => none
  | some '+' :: _ => none
  | _ =>
    let count := ((s.take most).takeWhile Glyph.digit).length
    some (if count = 0 then [] else [s.drop count])

def nameRests? (s : Shape) : TextField → Option (List Shape)
  | .shortMonth => some (shortRests Date.monthNames s)
  | .longMonth => some (longRests Date.monthNames s)
  | .longWeekday => some (longRests Date.weekdayNames s)
  | _ => none

-- What may be left of a text after an item, where it can be told.
def rests? (s : Shape) : Item → Option (List Shape)
  | .literal t => some (if s.begins t then [s.drop t.length] else [])
  | .blanks _ => some [s.dropWhile Glyph.blank]
  | .number f _ => f.width?.bind fun most => numberRests? most (s.dropWhile Glyph.blank)
  | .text f => nameRests? s f
  | .unknown => some []

end Item

-- No text of the shape is read to its end.
def refuses : List Item → Shape → Bool
  | [], s => !s.isEmpty
  | it :: items, s =>
    match it.rests? s with
    | some rests => rests.all (refuses items)
    | none => false

section
variable {s : Shape} {text rest : List Char}

theorem shortName?_begins {names : List String} {place : Nat} (read : shortName? names text = some (place, rest)) :
    rest = text.drop 3 ∧ ∃ n, names[place]? = some n ∧
      (n.toList.take 3).map lowerAscii <+: text.map lowerAscii := by
  unfold shortName? at read
  dsimp only at read
  split at read
  · rename_i inside
    cases read
    refine ⟨rfl, _, List.getElem?_eq_getElem inside, ?_⟩
    have same := List.findIdx_getElem (w := inside)
    rw [beq_iff_eq] at same
    rw [same, List.map_take]
    exact List.take_prefix ..
  · cases read

theorem longName?_rest {names : List String} {place : Nat} (read : longName? names text = some (place, rest)) :
    ∃ n ∈ names, (n.toList.take 3).map lowerAscii <+: text.map lowerAscii ∧
      (rest = text.drop 3 ∨ rest = text.drop (3 + (n.toList.drop 3).length)) := by
  unfold longName? at read
  obtain ⟨⟨place', rest'⟩, short, same⟩ := Option.map_eq_some_iff.mp read
  obtain ⟨rfl, n, found, starts⟩ := shortName?_begins short
  refine ⟨n, List.mem_of_getElem? found, starts, ?_⟩
  dsimp only at same
  rw [found, Option.getD_some] at same
  split at same
  · cases same
    right
    rw [List.length_map, List.drop_drop]
  · cases same
    exact .inl rfl

theorem set_read {r next : Reader} {put : Parts → Int → Option Parts} {read : Option (Int × List Char)}
    (done : r.set put read = some next) : ∃ n, read = some (n, next.rest) := by
  obtain ⟨⟨n, rest⟩, here, done⟩ := Option.bind_eq_some_iff.mp done
  obtain ⟨parts, _, same⟩ := Option.bind_eq_some_iff.mp done
  cases same
  exact ⟨n, here⟩

theorem setName_read {r next : Reader} {put : Parts → Int → Option Parts} {least : Int}
    {read : Option (Nat × List Char)} (done : r.setName put least read = some next) :
    ∃ place, read = some (place, next.rest) := by
  obtain ⟨n, moved⟩ := set_read done
  obtain ⟨⟨place, rest⟩, here, same⟩ := Option.map_eq_some_iff.mp moved
  cases same
  exact ⟨place, here⟩

theorem digits?_read {least most : Nat} {n : Int} (read : digits? least most text = some (n, rest)) :
    least ≤ ((text.take most).takeWhile isDigit).length ∧
      rest = text.drop ((text.take most).takeWhile isDigit).length := by
  unfold digits? at read
  dsimp only at read
  split at read
  · rename_i enough
    cases read
    exact ⟨enough.1, rfl⟩
  · cases read

-- The numbers of a date or a time are read digit by digit, and a year may have a sign.
theorem number?_read {r next : Reader} {f : NumberField} {most : Nat} (limit : f.width? = some most)
    (done : r.number? f = some next) : ∃ n, digits? 1 most (r.rest.dropWhile isBlank) = some (n, next.rest) ∨
      signed? most (r.rest.dropWhile isBlank) = some (n, next.rest) := by
  unfold Reader.number? at done
  cases f <;> cases limit
  case year =>
    obtain ⟨n, read⟩ := set_read done
    exact ⟨n, .inr read⟩
  all_goals
    obtain ⟨n, read⟩ := set_read done
    exact ⟨n, .inl read⟩

theorem Shape.Matches.head {c : Char} {more : List Char} (same : s.Matches (c :: more)) (sign : isDigit c = false) :
    ∃ others, s = some c :: others := by
  cases same with
  | @cons g _ others _ fits _ =>
    cases g with
    | none => rw [Glyph.Fits, sign] at fits; cases fits
    | some k =>
      cases fits
      exact ⟨others, rfl⟩

theorem Shape.Matches.short {names : List String} {place : Nat} (same : s.Matches text)
    (read : shortName? names text = some (place, rest)) : ∃ s' ∈ Item.shortRests names s, s'.Matches rest := by
  obtain ⟨rfl, n, found, starts⟩ := shortName?_begins read
  have begins : (names.any fun n => s.lower.begins ((n.toList.take 3).map lowerAscii)) = true :=
    List.any_eq_true.mpr ⟨n, List.mem_of_getElem? found, same.lower.begins starts⟩
  unfold Item.shortRests
  rw [if_pos begins]
  exact ⟨_, List.mem_singleton_self _, same.drop 3⟩

theorem Shape.Matches.long {names : List String} {place : Nat} (same : s.Matches text)
    (read : longName? names text = some (place, rest)) : ∃ s' ∈ Item.longRests names s, s'.Matches rest := by
  obtain ⟨n, member, starts, ends⟩ := longName?_rest read
  have begins : s.lower.begins ((n.toList.take 3).map lowerAscii) = true := same.lower.begins starts
  have both : ∀ s', s' = s.drop 3 ∨ s' = s.drop (3 + (n.toList.drop 3).length) → s' ∈ Item.longRests names s := by
    intro s' either
    refine List.mem_flatMap.mpr ⟨n, member, ?_⟩
    rw [if_pos begins]
    simpa using either
  rcases ends with rfl | rfl
  · exact ⟨_, both _ (.inl rfl), same.drop _⟩
  · exact ⟨_, both _ (.inr rfl), same.drop _⟩

theorem Shape.Matches.name {rests : List Shape} {f : TextField} {p : Parts} {next : Reader} (same : s.Matches text)
    (known : Item.nameRests? s f = some rests) (read : Reader.text? ⟨p, text⟩ f = some next) :
    ∃ s' ∈ rests, s'.Matches next.rest := by
  cases f <;> cases known
  case shortMonth =>
    obtain ⟨place, named⟩ := setName_read read
    exact same.short named
  case longMonth =>
    obtain ⟨place, named⟩ := setName_read read
    exact same.long named
  case longWeekday =>
    obtain ⟨place, named⟩ := setName_read read
    exact same.long named

theorem Shape.Matches.number {rests : List Shape} {most : Nat} {n : Int} (same : s.Matches text)
    (known : Item.numberRests? most s = some rests)
    (read : digits? 1 most text = some (n, rest) ∨ signed? most text = some (n, rest)) :
    ∃ s' ∈ rests, s'.Matches rest := by
  unfold Item.numberRests? at known
  split at known
  · cases known
  · cases known
  · rename_i minus plus
    have digits : digits? 1 most text = some (n, rest) := by
      rcases read with digits | signed
      · exact digits
      · unfold signed? at signed
        split at signed
        · obtain ⟨others, starts⟩ := same.head rfl
          exact absurd starts (minus others)
        · obtain ⟨others, starts⟩ := same.head rfl
          exact absurd starts (plus others)
        · exact signed
    obtain ⟨enough, rfl⟩ := digits?_read digits
    rw [same.digits] at enough ⊢
    dsimp only at known
    rw [if_neg (Nat.ne_of_gt enough)] at known
    cases known
    exact ⟨_, List.mem_singleton_self _, same.drop _⟩

theorem Shape.Matches.item {rests : List Shape} {it : Item} {p : Parts} {next : Reader} (same : s.Matches text)
    (known : it.rests? s = some rests) (read : Reader.item? ⟨p, text⟩ it = some next) :
    ∃ s' ∈ rests, s'.Matches next.rest := by
  cases it with
  | literal t =>
    cases known
    simp only [Reader.item?] at read
    split at read
    · rename_i starts
      cases read
      rw [if_pos (same.begins (List.isPrefixOf_iff_prefix.mp starts))]
      exact ⟨_, List.mem_singleton_self _, same.drop _⟩
    · cases read
  | blanks t =>
    cases known
    cases read
    exact ⟨_, List.mem_singleton_self _, same.unblanked⟩
  | number f pad =>
    obtain ⟨most, limit, known⟩ := Option.bind_eq_some_iff.mp known
    obtain ⟨n, digits⟩ := number?_read limit read
    exact same.unblanked.number known digits
  | text f => exact same.name known read
  | unknown => cases read

-- The induction is on the items: what is left after the first one is one of the shapes that the others refuse.
theorem refuses_reads {items : List Item} {p : Parts} {last : Reader} (refused : refuses items s = true)
    (same : s.Matches text) (read : items.foldlM Reader.item? ⟨p, text⟩ = some last) : last.rest ≠ [] := by
  induction items generalizing s text p with
  | nil =>
    cases read
    cases same with
    | nil => cases refused
    | cons => exact List.cons_ne_nil _ _
  | cons it items ih =>
    rw [List.foldlM_cons] at read
    obtain ⟨next, first, others⟩ := Option.bind_eq_some_iff.mp read
    rw [refuses] at refused
    split at refused
    · rename_i rests known
      obtain ⟨s', member, left⟩ := same.item known first
      exact ih (List.all_eq_true.mp refused s' member) left others
    · cases refused

theorem partsBy?_refused {pattern : List Char} (refused : refuses (itemsOf pattern) s = true) (same : s.Matches text) :
    partsBy? pattern text = none := by
  rw [Option.eq_none_iff_forall_ne_some]
  intro parts read
  obtain ⟨last, through, finished⟩ := Option.bind_eq_some_iff.mp read
  have left := refuses_reads refused same through
  unfold Reader.finished? at finished
  split at finished
  · rename_i done
    exact left (List.isEmpty_iff.mp done)
  · cases finished

-- A timestamp starts with four digits and goes on after the date.
def stampless (s : Shape) : Bool := s.length ≤ 10 || ((s.take 4).takeWhile Glyph.digit).length < 4

theorem skip_read {r next : Reader} {c : Char} (done : r.skip c = some next) : r.rest = c :: next.rest := by
  obtain ⟨rest, here, same⟩ := Option.map_eq_some_iff.mp done
  cases same
  unfold char? at here
  split at here
  · rename_i starts
    split at here
    · rename_i equal
      cases here
      rw [starts, equal]
    · cases here
  · cases here

theorem digits?_length {least most : Nat} {n : Int} (read : digits? least most text = some (n, rest)) :
    rest.length + least ≤ text.length := by
  obtain ⟨enough, rfl⟩ := digits?_read read
  have within : ((text.take most).takeWhile isDigit).length ≤ text.length :=
    ((List.takeWhile_prefix _).trans (List.take_prefix ..)).length_le
  rw [List.length_drop]
  omega

theorem timestamp?_read {last : Reader} (done : (Reader.start text).timestamp? = some last) :
    10 < text.length ∧ 4 ≤ ((text.take 4).takeWhile isDigit).length := by
  unfold Reader.timestamp? at done
  obtain ⟨r₁, year, done⟩ := Option.bind_eq_some_iff.mp done
  obtain ⟨r₂, dash, done⟩ := Option.bind_eq_some_iff.mp done
  obtain ⟨r₃, month, done⟩ := Option.bind_eq_some_iff.mp done
  obtain ⟨r₄, dash', done⟩ := Option.bind_eq_some_iff.mp done
  obtain ⟨r₅, day, done⟩ := Option.bind_eq_some_iff.mp done
  obtain ⟨r₆, mark, _⟩ := Option.bind_eq_some_iff.mp done
  obtain ⟨_, year⟩ := set_read year
  obtain ⟨_, month⟩ := set_read month
  obtain ⟨_, day⟩ := set_read day
  have some : 0 < r₅.rest.length := by
    have marks : ∃ c, r₅.skip c = .some r₆ := by
      rcases Option.or_eq_some_iff.mp mark with upper | ⟨_, others⟩
      · exact ⟨_, upper⟩
      · rcases Option.or_eq_some_iff.mp others with lower | ⟨_, blank⟩
        · exact ⟨_, lower⟩
        · exact ⟨_, blank⟩
    obtain ⟨c, skipped⟩ := marks
    rw [skip_read skipped]
    exact Nat.succ_pos _
  have years := digits?_length year
  have months := digits?_length month
  have days := digits?_length day
  rw [skip_read dash, List.length_cons] at years
  rw [skip_read dash', List.length_cons] at months
  have start : (Reader.start text).rest = text := rfl
  rw [start] at years
  exact ⟨by omega, (digits?_read year).1⟩

theorem partsOfTimestamp?_stampless (unstamped : stampless s = true) (same : s.Matches text) :
    partsOfTimestamp? text = none := by
  rw [Option.eq_none_iff_forall_ne_some]
  intro parts read
  obtain ⟨last, through, _⟩ := Option.bind_eq_some_iff.mp read
  obtain ⟨long, digits⟩ := timestamp?_read through
  rw [same.digits] at digits
  rw [← List.Forall₂.length_eq same] at long
  unfold stampless at unstamped
  rw [Bool.or_eq_true, decide_eq_true_eq, decide_eq_true_eq] at unstamped
  omega

def solid : Shape → Bool
  | g :: _ => !g.blank
  | [] => false

theorem Shape.Matches.solid (same : s.Matches text) (starts : solid s = true) :
    ∃ c more, text = c :: more ∧ isBlank c = false := by
  cases same with
  | nil => cases starts
  | @cons g c s text fits _ => exact ⟨c, text, rfl, fits.blank_eq.trans (by simpa [Calendar.solid] using starts)⟩

-- Nothing is cut off from a text that neither starts nor ends with a blank.
theorem Shape.Matches.trim (same : s.Matches text) (starts : Calendar.solid s = true)
    (ends : Calendar.solid s.reverse = true) : Text.trim text = text := by
  have back : Matches s.reverse text.reverse := List.forall₂_reverse_iff.mpr same
  obtain ⟨c, front, last, shown⟩ := back.solid ends
  refine Text.trim_ends (same.solid starts) ⟨front.reverse, c, ?_, shown⟩
  rw [← List.reverse_reverse text, last, List.reverse_cons]

end

-- The shape of the text of any date with the given month and weekday.
def Item.shape? (month weekday : Nat) : Item → Option Shape
  | .literal t => some (t.map some)
  | .blanks t => some (t.map some)
  | .number f .zero => f.width?.map fun width => List.replicate width none
  | .text .shortMonth => some (((nameOf Date.monthNames (month - 1)).take 3).map some)
  | .text .longMonth => some ((nameOf Date.monthNames (month - 1)).map some)
  | .text .longWeekday => some ((nameOf Date.weekdayNames weekday).map some)
  | _ => none

def shape? (month weekday : Nat) : List Item → Option Shape
  | [] => some []
  | it :: items => (it.shape? month weekday).bind fun s => (shape? month weekday items).map (s ++ ·)

section
variable {d : Date} {s : Shape} {text : List Char}

theorem matches_self (t : List Char) : Shape.Matches (t.map some) t := by
  induction t with
  | nil => exact .nil
  | cons c t ih => exact .cons rfl ih

theorem DigitsOf.matches {ds : List Char} {width n : Nat} (numeral : DigitsOf ds width n) :
    Shape.Matches (List.replicate width none) ds := by
  rw [← numeral.width]
  have digits := numeral.digits
  clear numeral
  induction ds with
  | nil => exact .nil
  | cons c ds ih =>
    exact .cons (digits c (List.mem_cons_self ..)) (ih fun d member => digits d (List.mem_cons_of_mem _ member))

theorem written?_uncons {m : Moment} {it : Item} {items : List Item} (written : written? m (it :: items) = some text) :
    ∃ t rest, it.write? m = some t ∧ written? m items = some rest ∧ text = t ++ rest := by
  obtain ⟨texts, all, rfl⟩ := Option.map_eq_some_iff.mp written
  rw [List.mapM_cons] at all
  obtain ⟨t, first, all⟩ := Option.bind_eq_some_iff.mp all
  obtain ⟨others, rest, same⟩ := Option.bind_eq_some_iff.mp all
  cases same
  exact ⟨t, others.flatten, first, by rw [written?, rest]; rfl, List.flatten_cons⟩

theorem Item.shape?_matches (four : FourDigits d) {it : Item} (shaped : it.shape? d.month d.weekday = some s)
    (written : it.write? (Moment.ofDate d) = some text) : s.Matches text := by
  unfold Item.shape? at shaped
  split at shaped
  case h_3 =>
    obtain ⟨width, limit, same⟩ := Option.map_eq_some_iff.mp shaped
    subst same
    cases written
    exact (numberText_numeral four limit).matches
  case h_7 => cases shaped
  all_goals
    cases shaped
    cases written
    exact matches_self _

theorem shape?_matches (four : FourDigits d) {items : List Item} (shaped : shape? d.month d.weekday items = some s)
    (written : written? (Moment.ofDate d) items = some text) : s.Matches text := by
  induction items generalizing s text with
  | nil =>
    cases shaped
    cases written
    exact .nil
  | cons it items ih =>
    obtain ⟨first, head, shaped⟩ := Option.bind_eq_some_iff.mp shaped
    obtain ⟨others, tail, same⟩ := Option.map_eq_some_iff.mp shaped
    obtain ⟨t, rest, front, back, rfl⟩ := written?_uncons written
    subst same
    exact List.rel_append (Item.shape?_matches four head front) (ih tail back)

end
end TidyRows.Calendar
