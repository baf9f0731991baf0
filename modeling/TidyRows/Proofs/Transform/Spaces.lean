import TidyRows.Proofs.Transform.Amounts
namespace TidyRows
open Unicode (isBlank)

-- `ds` is `cs` with single spaces between some of its digits.
inductive Spread (cs : List Char) : List Char → Prop
  | itself : Spread cs cs
  | parted {a b : List Char} {x y : Char} : isDigit x = true → isDigit y = true → Spread cs (a ++ x :: y :: b) →
    Spread cs (a ++ x :: ' ' :: y :: b)

theorem Spread.length_le {cs ds : List Char} (spread : Spread cs ds) : cs.length ≤ ds.length := by
  induction spread with
  | itself => exact Nat.le_refl _
  | parted first second spread ih =>
    simp only [List.length_append, List.length_cons] at ih ⊢
    omega

namespace Transform

theorem parenthesised?_eq_some_iff {cs inner : List Char} :
    parenthesised? cs = some inner ↔ cs = '(' :: (inner ++ [')']) := by
  constructor
  · intro found
    unfold parenthesised? at found
    split at found
    · split at found
      · rename_i after _ tail last
        cases found
        rw [← List.reverse_reverse after, last, List.reverse_cons]
      · cases found
    · cases found
  · rintro rfl
    simp [parenthesised?]

section
variable {x y : Char} (first : isDigit x = true) (second : isDigit y = true) (a b : List Char)
include first second

-- What stands between two digits plays no part in how the ends of a text are trimmed, nor in its parentheses or its
-- currency signs.
theorem trim_around (mid : List Char) :
    Text.trim (a ++ x :: (mid ++ y :: b)) = a.dropWhile isBlank ++ x :: (mid ++ y :: Text.trimEnd b) := by
  have left := Text.digit_visible first
  have right := Text.digit_visible second
  have front : (a ++ x :: (mid ++ y :: b)).dropWhile isBlank = a.dropWhile isBlank ++ x :: (mid ++ y :: b) := by
    rw [List.dropWhile_append]
    split
    · rename_i blank
      rw [List.isEmpty_iff.mp blank, List.nil_append, List.dropWhile_cons_of_neg (by simp [left])]
    · rfl
  have back (cs : List Char) : Text.trimEnd (cs ++ y :: b) = cs ++ y :: Text.trimEnd b := by
    unfold Text.trimEnd Text.dropEndWhile
    rw [List.reverse_append, List.reverse_cons, List.append_assoc, List.dropWhile_append]
    split
    · rename_i blank
      rw [List.isEmpty_iff.mp blank]
      simp [right]
    · simp
  unfold Text.trim
  rw [front, ← List.cons_append, ← List.append_assoc, back, List.append_assoc, List.cons_append]

theorem parenthesised?_around : ∃ front back negated, ∀ mid,
    (parenthesised? (a ++ x :: (mid ++ y :: b))).getD (a ++ x :: (mid ++ y :: b)) = front ++ x :: (mid ++ y :: back) ∧
      (parenthesised? (a ++ x :: (mid ++ y :: b))).isSome = negated := by
  by_cases closed : ∃ front back, a = '(' :: front ∧ b = back ++ [')']
  · obtain ⟨front, back, rfl, rfl⟩ := closed
    refine ⟨front, back, true, fun mid => ?_⟩
    have found : parenthesised? ('(' :: front ++ x :: (mid ++ y :: (back ++ [')']))) =
        some (front ++ x :: (mid ++ y :: back)) := by
      rw [parenthesised?_eq_some_iff]
      simp
    rw [found]
    exact ⟨rfl, rfl⟩
  · refine ⟨a, b, false, fun mid => ?_⟩
    have none : parenthesised? (a ++ x :: (mid ++ y :: b)) = none := by
      rw [Option.eq_none_iff_forall_ne_some]
      intro inner found
      have text := parenthesised?_eq_some_iff.mp found
      cases a with
      | nil => exact digit_ne first rfl (List.cons.inj text).1
      | cons c front =>
        obtain ⟨rfl, rest⟩ := List.cons.inj text
        rcases List.eq_nil_or_concat' b with rfl | ⟨back, d, rfl⟩
        · have last : (front ++ x :: mid) ++ [y] = inner ++ [')'] := by simpa using rest
          exact digit_ne second rfl (List.cons.inj (List.append_inj_right' last rfl)).1
        · have last : (front ++ x :: (mid ++ y :: back)) ++ [d] = inner ++ [')'] := by simpa using rest
          have ends := (List.cons.inj (List.append_inj_right' last rfl)).1
          exact closed ⟨front, back, rfl, by rw [ends]⟩
    rw [none]
    exact ⟨rfl, rfl⟩

theorem strippedText_around : ∃ front back negated, ∀ mid, (∀ c ∈ mid, c ∉ currencySigns) →
    strippedText (a ++ x :: (mid ++ y :: b)) = front ++ x :: (mid ++ y :: back) ∧
      (parenthesised? (Text.trim (a ++ x :: (mid ++ y :: b)))).isSome = negated := by
  obtain ⟨front, back, negated, inside⟩ :=
    parenthesised?_around first second (a.dropWhile isBlank) (Text.trimEnd b)
  refine ⟨(front.filter fun c => !currencySigns.contains c).dropWhile isBlank,
    Text.trimEnd (back.filter fun c => !currencySigns.contains c), negated, fun mid unpriced => ?_⟩
  have kept : mid.filter (fun c => !currencySigns.contains c) = mid := by
    rw [List.filter_eq_self]
    intro c member
    simpa using unpriced c member
  unfold strippedText insideOf
  rw [trim_around first second, (inside mid).1, (inside mid).2, List.filter_append, List.filter_cons_of_pos,
    List.filter_append, List.filter_cons_of_pos, kept, trim_around first second]
  · exact ⟨rfl, rfl⟩
  · simpa using Amount.digit_unpriced second
  · simpa using Amount.digit_unpriced first

end

theorem isPlainNumber_chars {cs : List Char} (plain : isPlainNumber cs = true) :
    ∀ c ∈ cs, c = '-' ∨ c = '.' ∨ isDigit c = true := by
  have body {rest : List Char} (all : (rest.all fun c => isDigit c || c = '.') = true) :
      ∀ c ∈ rest, c = '-' ∨ c = '.' ∨ isDigit c = true := by
    intro c member
    have each := List.all_eq_true.mp all c member
    rw [Bool.or_eq_true, decide_eq_true_eq] at each
    exact .inr each.symm
  unfold isPlainNumber at plain
  simp only [Bool.and_eq_true] at plain
  obtain ⟨⟨all, _⟩, _⟩ := plain
  split at all
  · intro c member
    rcases List.mem_cons.mp member with minus | later
    · exact .inl minus
    · exact body all c later
  · exact body all

theorem plainNumber?_space {cs : List Char} (space : ' ' ∈ cs) : plainNumber? (withoutPlus cs) = none := by
  have left : ' ' ∈ withoutPlus cs := by
    unfold withoutPlus
    split
    · exact (List.mem_cons.mp space).resolve_left (by decide)
    · exact space
  unfold plainNumber?
  rw [if_neg]
  intro plain
  have := isPlainNumber_chars plain ' ' left
  revert this
  decide

end Transform

namespace Separators

theorem detect_unspaced (cs : List Char) : detect cs = english ∨ detect cs = continental := by
  unfold detect
  dsimp only
  repeat' split
  all_goals simp

def skipsSpaces (locale : Option String) : Bool := locale.any fun l => ofLocale l.toList = spaced

theorem chosen_spaced {locale : Option String} (skips : skipsSpaces locale = true) (cs : List Char) :
    chosen locale cs = spaced := by
  cases locale with
  | none => cases skips
  | some l =>
    have same : ofLocale l.toList = spaced := by simpa [skipsSpaces] using skips
    exact same

theorem chosen_unspaced {locale : Option String} (keeps : skipsSpaces locale = false) (cs : List Char) :
    (chosen locale cs).groups ' ' = false ∧ ' ' ≠ (chosen locale cs).decimal := by
  have other : chosen locale cs = english ∨ chosen locale cs = continental ∨ chosen locale cs = swiss := by
    cases locale with
    | none => exact (detect_unspaced cs).imp_right .inl
    | some l =>
      have known := ofLocale_usual l.toList
      have apart : ofLocale l.toList ≠ spaced := by simpa [skipsSpaces] using keeps
      have left : ofLocale l.toList = english ∨ ofLocale l.toList = continental ∨ ofLocale l.toList = swiss := by
        simpa [usual, apart] using known
      exact left
  rcases other with same | same | same <;> rw [same] <;> decide

theorem plain_space {s : Separators} (kept : s.groups ' ' = false) (other : ' ' ≠ s.decimal) (a b : List Char) :
    ' ' ∈ s.plain (a ++ ' ' :: b) := by
  simp [plain_append, plain_cons, kept, other]

end Separators

namespace Transform
open Separators
variable {cs ds : List Char} {x y : Char}

theorem readNumber_step (locale : Option String) (first : isDigit x = true) (second : isDigit y = true)
    (a b : List Char) : readNumber locale (a ++ x :: ' ' :: y :: b) =
      if skipsSpaces locale then readNumber locale (a ++ x :: y :: b) else none := by
  obtain ⟨front, back, negated, around⟩ := strippedText_around first second a b
  obtain ⟨spaced, sign⟩ := around [' '] (by simp [currencySigns])
  obtain ⟨close, same⟩ := around [] (by simp)
  simp only [List.singleton_append, List.nil_append] at spaced sign close same
  rw [readNumber_eq, readNumber_eq, spaced, sign, close, same]
  cases skips : skipsSpaces locale with
  | true =>
    have passed : Separators.spaced.groups ' ' = true := by decide
    rw [chosen_spaced skips, chosen_spaced skips, plain_append, plain_append, plain_cons _ x, plain_cons _ x,
      plain_cons _ ' ', passed]
    rfl
  | false =>
    obtain ⟨kept, other⟩ := chosen_unspaced skips (front ++ x :: ' ' :: y :: back)
    have space := plain_space kept other (front ++ [x]) (y :: back)
    rw [List.append_assoc, List.singleton_append] at space
    rw [plainNumber?_space space]
    rfl

-- However many spaces there are, they are passed over where spaces group, and are too much elsewhere.
theorem readNumber_spread (locale : Option String) (spread : Spread cs ds) :
    readNumber locale ds = if ds = cs ∨ skipsSpaces locale then readNumber locale cs else none := by
  induction spread with
  | itself => simp
  | @parted a b x y first second spread ih =>
    have more : a ++ x :: ' ' :: y :: b ≠ cs := by
      intro same
      have longer := spread.length_le
      rw [← same] at longer
      simp only [List.length_append, List.length_cons] at longer
      omega
    rw [readNumber_step locale first second, ih]
    cases skipsSpaces locale <;> simp [more]

theorem readNumber_thousand : readNumber (some "fr") "1 000,5".toList = readNumber (some "fr") "1000,5".toList := by
  have spread : Spread "1000,5".toList "1 000,5".toList :=
    .parted (a := []) (x := '1') (y := '0') (b := "00,5".toList) rfl rfl .itself
  have skips : skipsSpaces (some "fr") = true := by decide
  exact (readNumber_spread (some "fr") spread).trans (if_pos (.inr skips))

theorem readNumber_thousand_refused : Spread "1000".toList "1 000".toList ∧
    readNumber none "1000".toList = some (.ofDecimal false 1000 0) ∧ readNumber none "1 000".toList = none := by
  have spread : Spread "1000".toList "1 000".toList :=
    .parted (a := []) (x := '1') (y := '0') (b := "00".toList) rfl rfl .itself
  refine ⟨spread, ?_, readNumber_step none rfl rfl [] ['0', '0']⟩
  have read : Double.ofText? "1000".toList = some (.ofDecimal false 1000 0) := by
    have digits : Double.ofText? (signText false ++ ("1000".toList ++ (markedText '.' none ++ []))) = _ :=
      ofText?_decimal false (by decide) (by simp [isDigit]) (fun c member => nomatch member)
        (fun _ _ same => nomatch same) (by simp)
    exact digits
  have finite : (Double.ofDecimal false 1000 0).isFinite = true := by
    rw [Double.ofDecimal_finite_iff]
    refine lt_of_lt_of_le ?_ (Double.power_le_limit (k := 10) (by decide))
    norm_num
  have stripped : strippedText "1000".toList = "1000".toList := by decide
  have plain : isPlainNumber "1000".toList = true := by decide
  have canonical : withoutPlus ((chosen none "1000".toList).plain "1000".toList) = "1000".toList := by decide
  have unsigned : (parenthesised? (Text.trim "1000".toList)).isSome = false := by decide
  have number : plainNumber? "1000".toList = some (.ofDecimal false 1000 0) := by
    unfold plainNumber?
    rw [if_pos plain, read, Option.filter_some, if_pos finite]
  rw [readNumber_eq, stripped, canonical, unsigned, number, Option.map_some]
  exact congrArg some (if_neg Bool.false_ne_true)

end Transform
end TidyRows
