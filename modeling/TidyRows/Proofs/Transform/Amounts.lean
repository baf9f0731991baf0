import TidyRows.Proofs.Number.Closest
import TidyRows.Proofs.Number.Literal
import TidyRows.Proofs.Text.Blanks
import TidyRows.Transform.Separators
namespace TidyRows
open Unicode (isBlank)

structure Amount where
  minus : Bool
  enclosed : Bool
  whole : List Char
  fraction : Option (List Char)
  filled : whole ≠ []
  digits : ∀ c ∈ whole, isDigit c = true
  others : ∀ c ∈ fraction.getD [], isDigit c = true

def inThrees (mark : Char) : List Char → List Char
  | [] => []
  | c :: rest => if rest ≠ [] ∧ rest.length % 3 = 0 then c :: mark :: inThrees mark rest else c :: inThrees mark rest

theorem mem_signText {negative : Bool} {c : Char} (member : c ∈ signText negative) : c = '-' := by
  cases negative with
  | true => exact List.mem_singleton.mp member
  | false => cases member

section
variable {mark : Char} {ds : List Char}

theorem mem_inThrees {c : Char} (member : c ∈ inThrees mark ds) : c = mark ∨ c ∈ ds := by
  induction ds with
  | nil => exact .inr member
  | cons d rest ih =>
    unfold inThrees at member
    split at member
    · simp only [List.mem_cons] at member ⊢
      rcases member with own | between | later
      · exact .inr (.inl own)
      · exact .inl between
      · exact (ih later).imp_right .inr
    · simp only [List.mem_cons] at member ⊢
      rcases member with own | later
      · exact .inr (.inl own)
      · exact (ih later).imp_right .inr

theorem inThrees_start (mark : Char) (filled : ds ≠ []) : ∃ c more, inThrees mark ds = c :: more ∧ c ∈ ds := by
  obtain ⟨c, rest, rfl⟩ := List.exists_cons_of_ne_nil filled
  unfold inThrees
  split
  · exact ⟨c, _, rfl, List.mem_cons_self ..⟩
  · exact ⟨c, _, rfl, List.mem_cons_self ..⟩

theorem inThrees_end (mark : Char) (filled : ds ≠ []) : ∃ front c, inThrees mark ds = front ++ [c] ∧ c ∈ ds := by
  induction ds with
  | nil => exact absurd rfl filled
  | cons d rest ih =>
    cases rest with
    | nil => exact ⟨[], d, rfl, List.mem_cons_self ..⟩
    | cons e rest =>
      obtain ⟨front, c, final, member⟩ := ih (List.cons_ne_nil e rest)
      unfold inThrees
      rw [final]
      split
      · exact ⟨d :: mark :: front, c, rfl, List.mem_cons_of_mem _ member⟩
      · exact ⟨d :: front, c, rfl, List.mem_cons_of_mem _ member⟩

-- There are no marks in up to three digits, and with more of them three stand behind the last mark.
theorem inThrees_short (short : ds.length ≤ 3) : inThrees mark ds = ds := by
  induction ds with
  | nil => rfl
  | cons d rest ih =>
    simp only [List.length_cons] at short
    have unmarked : ¬(rest ≠ [] ∧ rest.length % 3 = 0) := by
      rintro ⟨more, three⟩
      have := List.length_pos_iff.mpr more
      omega
    simp only [inThrees, if_neg unmarked, ih (by omega)]

theorem inThrees_long (mark : Char) (long : 3 < ds.length) : ∃ front last,
    inThrees mark ds = front ++ mark :: last ∧ last.length = 3 ∧ ∀ c ∈ last, c ∈ ds := by
  induction ds with
  | nil => cases long
  | cons d rest ih =>
    simp only [List.length_cons] at long
    unfold inThrees
    by_cases three : rest.length = 3
    · have marked : rest ≠ [] ∧ rest.length % 3 = 0 := ⟨List.ne_nil_of_length_pos (by omega), by omega⟩
      rw [if_pos marked, inThrees_short (Nat.le_of_eq three)]
      exact ⟨[d], rest, rfl, three, fun c member => List.mem_cons_of_mem _ member⟩
    · obtain ⟨front, last, text, count, known⟩ := ih (by omega)
      rw [text]
      split
      · exact ⟨d :: mark :: front, last, rfl, count, fun c member => List.mem_cons_of_mem _ (known c member)⟩
      · exact ⟨d :: front, last, rfl, count, fun c member => List.mem_cons_of_mem _ (known c member)⟩

end

namespace Separators

-- Marks that neither take each other's place nor that of anything else in an amount.
structure Apart (s : Separators) : Prop where
  group : isDigit s.group = false
  decimal : isDigit s.decimal = false
  minus : s.groups '-' = false ∧ s.decimal ≠ '-'
  apart : s.groups s.decimal = false
  shown : isBlank s.decimal = false
  priced : s.group ∉ Transform.currencySigns ∧ s.decimal ∉ Transform.currencySigns

def usual : List Separators := [english, continental, spaced, swiss]

theorem ofLocale_usual (locale : List Char) : ofLocale locale ∈ usual := by
  unfold ofLocale
  dsimp only
  repeat' split
  all_goals decide

theorem usual_apart : ∀ s ∈ usual, s.Apart := by
  intro s member
  have each : s = english ∨ s = continental ∨ s = spaced ∨ s = swiss := by simpa [usual] using member
  rcases each with rfl | rfl | rfl | rfl <;> constructor <;> decide

section
variable {s : Separators} {c : Char} {cs : List Char}

theorem groups_group (s : Separators) : s.groups s.group = true := by simp [groups]

theorem Apart.distinct (apart : s.Apart) : s.decimal ≠ s.group := by
  intro same
  have taken := apart.apart
  rw [same, groups_group] at taken
  cases taken

theorem Apart.unsigned (apart : s.Apart) : s.group ≠ '-' := by
  intro same
  have taken := apart.minus.1
  rw [← same, groups_group] at taken
  cases taken

theorem Apart.digit (apart : s.Apart) (digit : isDigit c = true) : s.groups c = false ∧ c ≠ s.decimal := by
  have group := digit_ne digit apart.group
  have visible := Text.digit_visible digit
  exact ⟨by simp [groups, group, visible], digit_ne digit apart.decimal⟩

theorem plain_append (s : Separators) (cs ds : List Char) : s.plain (cs ++ ds) = s.plain cs ++ s.plain ds := by
  simp only [plain, List.filter_append, List.map_append]

theorem plain_cons (s : Separators) (c : Char) (cs : List Char) : s.plain (c :: cs) =
    if s.groups c then s.plain cs else (if c = s.decimal then '.' else c) :: s.plain cs := by
  unfold plain
  rw [List.filter_cons]
  cases s.groups c <;> rfl

theorem plain_kept (kept : ∀ c ∈ cs, s.groups c = false ∧ c ≠ s.decimal) : s.plain cs = cs := by
  induction cs with
  | nil => rfl
  | cons c cs ih =>
    obtain ⟨single, other⟩ := kept c (List.mem_cons_self ..)
    have rest := ih fun d member => kept d (List.mem_cons_of_mem _ member)
    simp [plain_cons, single, other, rest]

theorem Apart.plain_inThrees (apart : s.Apart) (digits : ∀ c ∈ cs, isDigit c = true) :
    s.plain (inThrees s.group cs) = cs := by
  induction cs with
  | nil => rfl
  | cons c cs ih =>
    obtain ⟨single, other⟩ := apart.digit (digits c (List.mem_cons_self ..))
    have rest := ih fun d member => digits d (List.mem_cons_of_mem _ member)
    unfold inThrees
    split
    · simp [plain_cons, single, other, groups_group, rest]
    · simp [plain_cons, single, other, rest]

end
end Separators

namespace Amount
variable {s : Separators}

def inner (s : Separators) (a : Amount) : List Char :=
  signText a.minus ++ (inThrees s.group a.whole ++ markedText s.decimal a.fraction)

def text (s : Separators) (a : Amount) : List Char := if a.enclosed then '(' :: (a.inner s ++ [')']) else a.inner s

def negative (a : Amount) : Bool := a.minus != a.enclosed

def magnitude (a : Amount) : ℚ :=
  digitsValue 0 (a.whole ++ a.fraction.getD []) / 10 ^ (a.fraction.getD []).length

def value (a : Amount) : ℚ := signed a.negative a.magnitude

-- The amount without the marks between its digits.
def plainText (a : Amount) : List Char := signText a.minus ++ (a.whole ++ markedText '.' a.fraction)

theorem plain_inner (apart : s.Apart) (a : Amount) : s.plain (a.inner s) = a.plainText := by
  have sign : s.plain (signText a.minus) = signText a.minus := by
    refine Separators.plain_kept fun c member => ?_
    rw [mem_signText member]
    exact ⟨apart.minus.1, apart.minus.2.symm⟩
  have fraction : s.plain (markedText s.decimal a.fraction) = markedText '.' a.fraction := by
    have others := a.others
    cases behind : a.fraction with
    | none => rfl
    | some ds =>
      rw [behind] at others
      have rest : s.plain ds = ds := Separators.plain_kept fun c member => apart.digit (others c member)
      simp [markedText, Separators.plain_cons, apart.apart, rest]
  simp only [inner, plainText, Separators.plain_append, sign, fraction, apart.plain_inThrees a.digits]

theorem mem_fraction {a : Amount} {mark c : Char} (member : c ∈ markedText mark a.fraction) :
    c = mark ∨ isDigit c = true := by
  have others := a.others
  cases fraction : a.fraction with
  | none =>
    rw [fraction] at member
    cases member
  | some ds =>
    rw [fraction] at member others
    exact (List.mem_cons.mp member).imp_right (others c)

theorem behind (apart : s.Apart) {a : Amount} : s.group ∉ markedText s.decimal a.fraction := by
  intro member
  rcases mem_fraction member with mark | digit
  · exact apart.distinct mark.symm
  · exact digit_ne digit apart.group rfl

theorem mem_inner {a : Amount} {c : Char} (member : c ∈ a.inner s) :
    c = '-' ∨ isDigit c = true ∨ c = s.group ∨ c = s.decimal := by
  simp only [inner, List.mem_append] at member
  rcases member with sign | whole | behind
  · exact .inl (mem_signText sign)
  · rcases mem_inThrees whole with group | digit
    · exact .inr (.inr (.inl group))
    · exact .inr (.inl (a.digits c digit))
  · rcases mem_fraction behind with mark | digit
    · exact .inr (.inr (.inr mark))
    · exact .inr (.inl digit)

theorem inner_start (s : Separators) (a : Amount) :
    ∃ c more, a.inner s = c :: more ∧ (c = '-' ∨ isDigit c = true) := by
  cases minus : a.minus with
  | true => exact ⟨'-', _, by rw [inner, minus]; rfl, .inl rfl⟩
  | false =>
    obtain ⟨c, more, start, member⟩ := inThrees_start s.group a.filled
    refine ⟨c, more ++ markedText s.decimal a.fraction, ?_, .inr (a.digits c member)⟩
    rw [inner, minus, start]
    rfl

theorem inner_end (apart : s.Apart) (a : Amount) : ∃ front c, a.inner s = front ++ [c] ∧ isBlank c = false := by
  have others := a.others
  cases behind : a.fraction with
  | none =>
    obtain ⟨front, c, final, member⟩ := inThrees_end s.group a.filled
    refine ⟨signText a.minus ++ front, c, ?_, Text.digit_visible (a.digits c member)⟩
    simp [inner, behind, final, markedText]
  | some ds =>
    rw [behind] at others
    rcases List.eq_nil_or_concat ds with rfl | ⟨front, c, rfl⟩
    · refine ⟨signText a.minus ++ inThrees s.group a.whole, s.decimal, ?_, apart.shown⟩
      simp [inner, behind, markedText]
    · refine ⟨signText a.minus ++ (inThrees s.group a.whole ++ s.decimal :: front), c, ?_, ?_⟩
      · simp [inner, behind, markedText]
      · exact Text.digit_visible (others c (by simp))

theorem start_shown {c : Char} (start : c = '-' ∨ isDigit c = true) : isBlank c = false := by
  rcases start with rfl | digit
  · decide
  · exact Text.digit_visible digit

theorem trim_inner (apart : s.Apart) (a : Amount) : Text.trim (a.inner s) = a.inner s := by
  obtain ⟨c, more, start, first⟩ := a.inner_start s
  exact Text.trim_ends ⟨c, more, start, start_shown first⟩ (a.inner_end apart)

theorem trim_text (apart : s.Apart) (a : Amount) : Text.trim (a.text s) = a.text s := by
  unfold text
  split
  · exact Text.trim_ends ⟨'(', _, rfl, by decide⟩ ⟨'(' :: a.inner s, ')', rfl, by decide⟩
  · exact a.trim_inner apart

theorem parenthesised?_text (s : Separators) (a : Amount) :
    Transform.parenthesised? (a.text s) = if a.enclosed then some (a.inner s) else none := by
  unfold text
  split
  · simp [Transform.parenthesised?]
  · obtain ⟨c, more, start, first⟩ := a.inner_start s
    have other : c ≠ '(' := by
      rcases first with rfl | digit
      · decide
      · exact digit_ne digit rfl
    rw [start]
    unfold Transform.parenthesised?
    split
    · rename_i same
      exact absurd (List.cons.inj same).1 other
    · rfl

theorem digit_unpriced {c : Char} (digit : isDigit c = true) : c ∉ Transform.currencySigns := by
  intro sign
  have other : ∀ d ∈ Transform.currencySigns, isDigit d = false := by simp [Transform.currencySigns, isDigit]
  exact digit_ne digit (other c sign) rfl

theorem unpriced (apart : s.Apart) (a : Amount) :
    (a.inner s).filter (fun c => !Transform.currencySigns.contains c) = a.inner s := by
  rw [List.filter_eq_self]
  intro c member
  have absent : c ∉ Transform.currencySigns := by
    rcases mem_inner member with rfl | digit | rfl | rfl
    · decide
    · exact digit_unpriced digit
    · exact apart.priced.1
    · exact apart.priced.2
  simpa using absent

theorem digits_plain (negative : Bool) {body : List Char} (first : ∃ c more, body = c :: more ∧ isDigit c = true)
    (all : ∀ c ∈ body, isDigit c = true ∨ c = '.') (points : body.count '.' ≤ 1) :
    Transform.isPlainNumber (signText negative ++ body) = true := by
  obtain ⟨c, more, rfl, digit⟩ := first
  have plain : ((c :: more).all (fun d => isDigit d || d = '.') && (c :: more).count '.' ≤ 1 &&
      (c :: more).any isDigit) = true := by
    simp only [Bool.and_eq_true, decide_eq_true_eq, List.all_eq_true, List.any_eq_true, Bool.or_eq_true]
    exact ⟨⟨all, points⟩, c, List.mem_cons_self .., digit⟩
  cases negative with
  | true => exact plain
  | false =>
    unfold Transform.isPlainNumber
    simp only [signText, Bool.false_eq_true, if_false, List.nil_append]
    split
    · rename_i same
      exact absurd (List.cons.inj same).1 (digit_ne digit rfl)
    · exact plain

theorem plainText_plain (a : Amount) : Transform.isPlainNumber a.plainText = true := by
  apply digits_plain
  · obtain ⟨c, more, start⟩ := List.exists_cons_of_ne_nil a.filled
    refine ⟨c, more ++ markedText '.' a.fraction, ?_, a.digits c (start ▸ List.mem_cons_self ..)⟩
    rw [start, List.cons_append]
  · intro c member
    rcases List.mem_append.mp member with digit | behind
    · exact .inl (a.digits c digit)
    · exact (mem_fraction behind).symm
  · have front : a.whole.count '.' = 0 := List.count_eq_zero.mpr (digits_without a.digits rfl)
    have back : (a.fraction.getD []).count '.' = 0 := List.count_eq_zero.mpr (digits_without a.others rfl)
    rw [List.count_append, front]
    cases fraction : a.fraction with
    | none => simp [markedText]
    | some ds =>
      rw [fraction] at back
      simpa [markedText] using back

end Amount

namespace Separators

def chosen (locale : Option String) (cs : List Char) : Separators := locale.elim (detect cs) fun l => ofLocale l.toList

theorem afterLast_mark {mark : Char} {last : List Char} (none : mark ∉ last) (front : List Char) :
    afterLast mark (front ++ mark :: last) = last := by
  have passed : ∀ c ∈ last.reverse, (c != mark) = true := by
    intro c member
    rw [bne_iff_ne]
    rintro rfl
    exact none (List.mem_reverse.mp member)
  unfold afterLast
  rw [List.reverse_append, List.reverse_cons, List.append_assoc, List.takeWhile_append_of_pos passed]
  simp

end Separators

namespace Transform

def withoutPlus : List Char → List Char
  | '+' :: rest => rest
  | rest => rest

theorem withoutPlus_other {c : Char} (other : c ≠ '+') (rest : List Char) : withoutPlus (c :: rest) = c :: rest := by
  unfold withoutPlus
  split
  · rename_i same
    exact absurd (List.cons.inj same).1 other
  · rfl

def plainNumber? (cs : List Char) : Option Double :=
  if isPlainNumber cs then (Double.ofText? cs).filter (·.isFinite) else none

def insideOf (text : List Char) : List Char := (parenthesised? (Text.trim text)).getD (Text.trim text)

def strippedText (text : List Char) : List Char := Text.trim ((insideOf text).filter fun c => !currencySigns.contains c)

theorem readNumber_eq (locale : Option String) (text : List Char) :
    readNumber locale text =
      (plainNumber? (withoutPlus ((Separators.chosen locale (strippedText text)).plain (strippedText text)))).map
        fun d => if (parenthesised? (Text.trim text)).isSome then d.neg else d := by
  unfold readNumber plainNumber?
  dsimp only
  generalize shape : isPlainNumber _ = plain
  generalize number : Double.ofText? _ = read
  have shape : isPlainNumber (withoutPlus ((Separators.chosen locale (strippedText text)).plain (strippedText text))) =
      plain := by
    rw [← shape]
    cases locale <;> rfl
  have number : Double.ofText? (withoutPlus ((Separators.chosen locale (strippedText text)).plain (strippedText text))) =
      read := by
    rw [← number]
    cases locale <;> rfl
  rw [shape, number]
  generalize (parenthesised? (Text.trim text)).isSome = negated
  cases plain with
  | false => rfl
  | true =>
    cases read with
    | none => rfl
    | some d =>
      cases d with
      | nan => rfl
      | infinite t => rfl
      | finite x => cases negated <;> rfl

end Transform

namespace Amount
variable {s : Separators} {a : Amount}

theorem readNumber_text (apart : s.Apart) {locale : Option String}
    (known : (Separators.chosen locale (a.inner s)).plain (a.inner s) = a.plainText) :
    Transform.readNumber locale (a.text s) =
      ((Double.ofText? a.plainText).filter (·.isFinite)).map fun d => if a.enclosed then d.neg else d := by
  have inside : Transform.insideOf (a.text s) = a.inner s := by
    unfold Transform.insideOf
    rw [trim_text apart, parenthesised?_text]
    cases enclosed : a.enclosed with
    | true => rfl
    | false => simp [text, enclosed]
  have stripped : Transform.strippedText (a.text s) = a.inner s := by
    unfold Transform.strippedText
    rw [inside, unpriced apart, trim_inner apart]
  have negated : (Transform.parenthesised? (Text.trim (a.text s))).isSome = a.enclosed := by
    rw [trim_text apart, parenthesised?_text]
    cases a.enclosed <;> rfl
  have unsigned : Transform.withoutPlus a.plainText = a.plainText := by
    obtain ⟨c, more, start⟩ := List.exists_cons_of_ne_nil a.filled
    have digit := a.digits c (start ▸ List.mem_cons_self ..)
    rw [plainText, start]
    cases a.minus with
    | true => rfl
    | false => exact Transform.withoutPlus_other (digit_ne digit rfl) (more ++ markedText '.' a.fraction)
  rw [Transform.readNumber_eq, stripped, known, unsigned, negated]
  unfold Transform.plainNumber?
  rw [if_pos a.plainText_plain]

theorem ofText?_plainText (a : Amount) : Double.ofText? a.plainText =
    some (.ofDecimal a.minus (digitsValue 0 (a.whole ++ a.fraction.getD [])) (-(a.fraction.getD []).length)) := by
  have read : Double.ofText? (signText a.minus ++ (a.whole ++ (markedText '.' a.fraction ++ []))) = _ :=
    ofText?_decimal a.minus a.filled a.digits a.others (fun _ _ same => nomatch same) (by simp)
  rw [List.append_nil] at read
  rw [plainText, read]
  simp [exponentOfText?]

section
variable (a)

theorem count_decimal (apart : s.Apart) : (a.inner s).count s.decimal = if a.fraction.isSome then 1 else 0 := by
  have others := a.others
  have sign : (signText a.minus).count s.decimal = 0 := by
    rw [List.count_eq_zero]
    exact fun member => apart.minus.2 (mem_signText member)
  have whole : (inThrees s.group a.whole).count s.decimal = 0 := by
    rw [List.count_eq_zero]
    intro member
    rcases mem_inThrees member with group | digit
    · exact apart.distinct group
    · exact digits_without a.digits apart.decimal digit
  rw [inner, List.count_append, List.count_append, sign, whole]
  cases fraction : a.fraction with
  | none => rfl
  | some ds =>
    rw [fraction] at others
    have rest : ds.count s.decimal = 0 := List.count_eq_zero.mpr (digits_without others apart.decimal)
    simp [markedText, rest]

theorem count_group (apart : s.Apart) : (a.inner s).count s.group = (inThrees s.group a.whole).count s.group := by
  have sign : (signText a.minus).count s.group = 0 := by
    rw [List.count_eq_zero]
    exact fun member => apart.unsigned (mem_signText member)
  have fraction : (markedText s.decimal a.fraction).count s.group = 0 := by
    rw [List.count_eq_zero]
    exact behind apart
  rw [inner, List.count_append, List.count_append, sign, fraction, Nat.zero_add, Nat.add_zero]

end

-- Behind the last mark between digits there are three of them, and then what there is of a fraction.
theorem grouped_end (apart : s.Apart) (grouped : (a.inner s).count s.group ≠ 0) : ∃ front last,
    a.inner s = front ++ s.group :: (last ++ markedText s.decimal a.fraction) ∧ last.length = 3 ∧
      ∀ c ∈ last, isDigit c = true := by
  have long : 3 < a.whole.length := by
    by_contra short
    apply grouped
    rw [a.count_group apart, inThrees_short (Nat.le_of_not_lt short), List.count_eq_zero]
    exact digits_without a.digits apart.group
  obtain ⟨front, last, text, three, known⟩ := inThrees_long s.group long
  refine ⟨signText a.minus ++ front, last, ?_, three, fun c member => a.digits c (known c member)⟩
  simp [inner, text]

theorem afterLast_group (apart : s.Apart) (grouped : (a.inner s).count s.group ≠ 0) : ∃ last,
    Separators.afterLast s.group (a.inner s) = last ++ markedText s.decimal a.fraction ∧ last.length = 3 ∧
      ∀ c ∈ last, isDigit c = true := by
  obtain ⟨front, last, text, three, digits⟩ := grouped_end apart grouped
  refine ⟨last, ?_, three, digits⟩
  rw [text]
  refine Separators.afterLast_mark ?_ front
  intro member
  rcases List.mem_append.mp member with digit | own
  · exact digits_without digits apart.group digit
  · exact behind apart own

theorem digitsAfterLast_group (apart : s.Apart) (grouped : (a.inner s).count s.group ≠ 0) (none : a.fraction = none) :
    Separators.digitsAfterLast s.group (a.inner s) = 3 := by
  obtain ⟨last, behind, three, digits⟩ := afterLast_group apart grouped
  unfold Separators.digitsAfterLast
  rw [behind, none, markedText, List.append_nil, List.countP_eq_length.mpr digits, three]

theorem afterLast_decimal (apart : s.Apart) {ds : List Char} (some : a.fraction = some ds) :
    Separators.afterLast s.decimal (a.inner s) = ds := by
  have others := a.others
  rw [some] at others
  unfold inner
  rw [some, markedText, ← List.append_assoc]
  exact Separators.afterLast_mark (digits_without others apart.decimal) _

open Separators

theorem detect_english (a : Amount) : detect (a.inner english) = english := by
  have apart : english.Apart := usual_apart english (by decide)
  have points : (a.inner english).count '.' = if a.fraction.isSome then 1 else 0 := a.count_decimal apart
  unfold detect
  simp only [points]
  by_cases grouped : (a.inner english).count ',' = 0
  · cases a.fraction <;> simp [grouped]
  · cases fraction : a.fraction with
    | none =>
      have three : digitsAfterLast ',' (a.inner english) = 3 := digitsAfterLast_group apart grouped fraction
      simp [three]
    | some ds =>
      obtain ⟨last, behind, _⟩ := afterLast_group apart grouped
      have seen : (afterLast ',' (a.inner english)).contains '.' = true := by
        rw [List.contains_iff_mem]
        show '.' ∈ afterLast english.group (a.inner english)
        rw [behind, fraction]
        simp [markedText, english]
      simp only [Option.isSome_some, if_true, Nat.one_ne_zero, if_false, grouped, seen]

-- What tells the marks of a text apart: both kinds stand in it, or the grouping one more than once, or only a decimal one,
-- which is not a comma before three digits.
def Clear (s : Separators) (a : Amount) : Prop :=
  (s.group ∈ a.text s ∧ s.decimal ∈ a.text s) ∨ 2 ≤ (a.text s).count s.group ∨
    (s.group ∉ a.text s ∧ (s.decimal = ',' → ∀ ds, a.fraction = some ds → ds.length ≠ 3))

theorem count_text {c : Char} (inside : c ≠ '(' ∧ c ≠ ')') (s : Separators) (a : Amount) :
    (a.text s).count c = (a.inner s).count c := by
  unfold text
  split
  · simp [inside.1.symm, inside.2.symm]
  · rfl

theorem unmarked (apart : s.Apart) (none : (a.inner s).count s.group = 0) (t : Separators) :
    inThrees t.group a.whole = a.whole := by
  apply inThrees_short
  by_contra long
  obtain ⟨front, last, text, _⟩ := inThrees_long s.group (Nat.lt_of_not_le long)
  rw [a.count_group apart, text] at none
  simp at none

theorem Clear.counted (clear : a.Clear continental) :
    ((a.inner continental).count '.' ≠ 0 ∧ a.fraction.isSome) ∨ 2 ≤ (a.inner continental).count '.' ∨
      ((a.inner continental).count '.' = 0 ∧ ∀ ds, a.fraction = some ds → ds.length ≠ 3) := by
  have points : (a.text continental).count '.' = (a.inner continental).count '.' := count_text (by decide) _ _
  have commas : (a.text continental).count ',' = if a.fraction.isSome then 1 else 0 :=
    (count_text (by decide) _ _).trans (a.count_decimal (usual_apart continental (by decide)))
  rcases clear with ⟨group, decimal⟩ | twice | ⟨single, other⟩
  · left
    refine ⟨points ▸ Nat.ne_of_gt (List.count_pos_iff.mpr group), ?_⟩
    have some := List.count_pos_iff.mpr decimal
    by_contra none
    rw [show continental.decimal = ',' from rfl, commas, if_neg none] at some
    exact Nat.lt_irrefl 0 some
  · exact .inr (.inl (points ▸ twice))
  · exact .inr (.inr ⟨points ▸ List.count_eq_zero.mpr single, other rfl⟩)

theorem detect_continental (clear : a.Clear continental) (marked : a.fraction.isSome ∨ '.' ∈ a.inner continental) :
    detect (a.inner continental) = continental := by
  have apart : continental.Apart := usual_apart continental (by decide)
  have commas : (a.inner continental).count ',' = if a.fraction.isSome then 1 else 0 := a.count_decimal apart
  unfold detect
  simp only [commas]
  cases fraction : a.fraction with
  | none =>
    have grouped : (a.inner continental).count '.' ≠ 0 := by
      rw [fraction] at marked
      exact Nat.ne_of_gt (List.count_pos_iff.mpr (marked.resolve_left (by simp)))
    have twice : 1 < (a.inner continental).count '.' := by
      rcases clear.counted with ⟨_, some⟩ | twice | ⟨single, _⟩
      · simp [fraction] at some
      · exact twice
      · exact absurd single grouped
    have three : digitsAfterLast '.' (a.inner continental) = 3 := digitsAfterLast_group apart grouped fraction
    simp [grouped, twice, three]
  | some ds =>
    have behind : afterLast ',' (a.inner continental) = ds := afterLast_decimal apart fraction
    have others := a.others
    rw [fraction] at others
    by_cases grouped : (a.inner continental).count '.' = 0
    · have length : ds.length ≠ 3 := by
        rcases clear.counted with ⟨some, _⟩ | twice | ⟨_, other⟩
        · exact absurd grouped some
        · omega
        · exact other ds fraction
      have after : digitsAfterLast ',' (a.inner continental) = ds.length := by
        unfold digitsAfterLast
        rw [behind, List.countP_eq_length]
        exact others
      simp [grouped, after, length]
    · have hidden : '.' ∉ ds := digits_without others rfl
      simp [grouped, behind, hidden]

theorem chosen_continental (clear : a.Clear continental) :
    (detect (a.inner continental)).plain (a.inner continental) = a.plainText := by
  have apart : continental.Apart := usual_apart continental (by decide)
  by_cases marked : a.fraction.isSome ∨ '.' ∈ a.inner continental
  · rw [detect_continental clear marked]
    exact plain_inner apart a
  · obtain ⟨unbroken, single⟩ := not_or.mp marked
    -- an amount without marks is taken as English and reads the same
    have same : a.inner continental = a.inner english := by
      have absent : (a.inner continental).count continental.group = 0 := List.count_eq_zero.mpr single
      have whole : a.fraction = none := by simpa using unbroken
      rw [inner, inner, unmarked apart absent, unmarked apart absent, whole]
      rfl
    rw [same, detect_english]
    exact plain_inner (usual_apart english (by decide)) a

-- The amount is read as the closest number, and not at all when it is too large for one.
def ReadBack (locale : Option String) (s : Separators) (a : Amount) : Prop :=
  (a.magnitude < Double.limit → ∃ x, Transform.readNumber locale (a.text s) = some (.finite x) ∧
    x.negative = a.negative ∧ x.Closest a.value) ∧
  (Double.limit ≤ a.magnitude → Transform.readNumber locale (a.text s) = none)

end Amount

namespace Amount
open Separators
variable {s : Separators} {a : Amount} {locale : Option String}

theorem magnitude_eq (a : Amount) : (digitsValue 0 (a.whole ++ a.fraction.getD []) : ℚ) *
    10 ^ (-((a.fraction.getD []).length : Int)) = a.magnitude := by
  unfold magnitude
  rw [zpow_neg, zpow_natCast, div_eq_mul_inv]

theorem readBack_of_plain (apart : s.Apart) (known : (chosen locale (a.inner s)).plain (a.inner s) = a.plainText) :
    a.ReadBack locale s := by
  have read := readNumber_text apart known
  rw [a.ofText?_plainText] at read
  constructor
  · intro within
    have finite : (Double.ofDecimal a.minus _ _).isFinite = true :=
      Double.ofDecimal_finite_iff.mpr (a.magnitude_eq ▸ within)
    obtain ⟨x, number⟩ := Double.isFinite_iff.mp finite
    obtain ⟨sign, closest⟩ := Double.ofDecimal_closest number
    rw [a.magnitude_eq] at closest
    rw [number] at read
    unfold value negative
    cases enclosed : a.enclosed with
    | true =>
      rw [enclosed] at read
      refine ⟨x.neg, read, ?_, ?_⟩
      · unfold Finite.neg
        rw [sign]
        cases a.minus <;> rfl
      · have turned := closest.neg
        cases minus : a.minus <;> simpa [signed, minus] using turned
    | false =>
      rw [enclosed] at read
      refine ⟨x, read, ?_, ?_⟩
      · rw [sign]
        cases a.minus <;> rfl
      · cases minus : a.minus <;> simpa [signed, minus] using closest
  · intro beyond
    rw [Double.ofDecimal_infinite (a.magnitude_eq ▸ beyond)] at read
    exact read

-- With a locale its own marks are read, and without one the English and the continental ones wherever they are clear.
theorem readNumber_amount (a : Amount) :
    (∀ locale : String, a.ReadBack (some locale) (ofLocale locale.toList)) ∧
      ∀ s, s = english ∨ s = continental → a.Clear s → a.ReadBack none s := by
  constructor
  · intro locale
    have apart := usual_apart _ (ofLocale_usual locale.toList)
    exact readBack_of_plain apart (plain_inner apart a)
  · rintro s (rfl | rfl) clear
    · refine readBack_of_plain (usual_apart english (by decide)) ?_
      show (detect (a.inner english)).plain (a.inner english) = a.plainText
      rw [detect_english]
      exact plain_inner (usual_apart english (by decide)) a
    · exact readBack_of_plain (usual_apart continental (by decide)) (chosen_continental clear)

theorem readNumber_million : ∃ x, Transform.readNumber none "(1.234.567,5)".toList = some (.finite x) ∧
    x.negative = true ∧ x.Closest (-1234567.5) := by
  let a : Amount :=
    ⟨false, true, ['1', '2', '3', '4', '5', '6', '7'], some ['5'], by simp, by simp [isDigit], by simp [isDigit]⟩
  have text : a.text continental = "(1.234.567,5)".toList := by decide
  have magnitude : a.magnitude = 1234567.5 := by
    have digits : digitsValue 0 (a.whole ++ a.fraction.getD []) = 12345675 := by decide
    rw [Amount.magnitude, digits]
    norm_num [a]
  have value : a.value = -1234567.5 := by
    rw [Amount.value, magnitude]
    rfl
  have within : a.magnitude < Double.limit := by
    refine lt_of_lt_of_le ?_ (Double.power_le_limit (k := 21) (by decide))
    rw [magnitude]
    norm_num
  obtain ⟨x, read, sign, closest⟩ :=
    ((readNumber_amount a).2 continental (.inr rfl) (.inr (.inl (by decide)))).1 within
  exact ⟨x, text ▸ read, sign, value ▸ closest⟩

end Amount
end TidyRows
