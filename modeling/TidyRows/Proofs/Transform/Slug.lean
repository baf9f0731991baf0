import TidyRows.Proofs.Text.Replacing
import TidyRows.Proofs.Text.Words
import TidyRows.Transform.Apply
namespace TidyRows

-- What a loop that goes on as long as `test` holds makes of a value. No value stands in for one that is never reached.
inductive Ends {α : Type} (test : α → Bool) (step : α → α) : α → α → Prop
  | stop {a : α} (ended : test a = false) : Ends test step a a
  | turn {a b : α} (again : test a = true) (rest : Ends test step (step a) b) : Ends test step a b

namespace Ends
variable {α : Type} {test : α → Bool} {step : α → α} {a b c : α}

theorem ended (ends : Ends test step a b) : ¬test b = true := by
  induction ends with
  | stop ended => exact Bool.eq_false_iff.mp ended
  | turn again rest ih => exact ih

theorem unique (ends : Ends test step a b) (other : Ends test step a c) : b = c := by
  induction ends with
  | stop ended =>
    cases other with
    | stop _ => rfl
    | turn again _ => cases ended.symm.trans again
  | turn again rest ih =>
    cases other with
    | stop ended => cases ended.symm.trans again
    | turn _ rest' => exact ih rest'

theorem keeps (Holds : α → Prop) (kept : ∀ a, Holds a → Holds (step a)) (ends : Ends test step a b) (start : Holds a) :
    Holds b := by
  induction ends with
  | stop ended => exact start
  | turn again rest ih => exact ih (kept _ start)

-- A count that every turn makes smaller is as many turns as the loop can need.
theorem of_fuel {run : Nat → α → α} (size : α → Nat) (none : ∀ a, run 0 a = a)
    (some : ∀ fuel a, run (fuel + 1) a = if test a then run fuel (step a) else a)
    (smaller : ∀ a, test a = true → size (step a) < size a) {fuel : Nat} {a : α} (enough : size a ≤ fuel) :
    Ends test step a (run fuel a) := by
  induction fuel generalizing a with
  | zero =>
    rw [none]
    refine .stop (Bool.eq_false_iff.mpr fun again => ?_)
    have := smaller a again
    omega
  | succ fuel ih =>
    rw [some]
    split
    · rename_i again
      have := smaller a again
      exact .turn again (ih (by omega))
    · rename_i ended
      exact .stop (Bool.eq_false_iff.mpr ended)

end Ends

namespace Transform
open Text
variable {separator cs text : List Char}

theorem collapseDoubled_ends (filled : separator ≠ []) (cs : List Char) :
    Ends (holdsText (separator ++ separator)) (replaceAll (separator ++ separator) separator) cs
      (collapseDoubled separator cs.length cs) := by
  have long := List.length_pos_iff.mpr filled
  have shorter : separator.length < (separator ++ separator).length := by
    rw [List.length_append]
    omega
  refine Ends.of_fuel List.length (fun _ => rfl) (fun _ _ => rfl) (fun cs held => ?_) (Nat.le_refl _)
  exact (replaceAll_replaced (by simp [filled]) _ _).length_lt shorter (holdsText_iff.mp held)

theorem stripFront_ends (filled : separator ≠ []) (cs : List Char) :
    Ends (startsWith · separator) (List.drop separator.length) cs (stripFront separator cs.length cs) := by
  have long := List.length_pos_iff.mpr filled
  refine Ends.of_fuel List.length (fun _ => rfl) (fun _ _ => rfl) (fun cs starts => ?_) (Nat.le_refl _)
  have short := (startsWith_iff.mp starts).length_le
  rw [List.length_drop]
  omega

theorem stripBack_ends (filled : separator ≠ []) {fuel : Nat} (cs : List Char) (enough : cs.length ≤ fuel) :
    Ends (endsWith · separator) (fun cs => cs.take (cs.length - separator.length)) cs (stripBack separator fuel cs) := by
  have long := List.length_pos_iff.mpr filled
  refine Ends.of_fuel List.length (fun _ => rfl) (fun _ _ => rfl) (fun cs ends => ?_) enough
  have short := (endsWith_iff.mp ends).length_le
  rw [List.length_take]
  omega

def slugWords (cs : List Char) : List (List Char) := (cs.splitOnP (!isSlugChar ·)).filter (· ≠ [])

section
variable {c d : Char} {rest : List Char}

theorem slugWords_gap (gap : isSlugChar c = false) (rest : List Char) : slugWords (c :: rest) = slugWords rest := by
  rw [slugWords, List.splitOnP_cons_eq_if_modifyHead, if_pos (by simp [gap])]
  simp [slugWords]

theorem slugWords_single (own : isSlugChar c = true) (ends : rest.head?.any isSlugChar = false) :
    slugWords (c :: rest) = [c] :: slugWords rest := by
  rw [slugWords, slugWords, List.splitOnP_cons_eq_if_modifyHead, if_neg (by simp [own])]
  cases rest with
  | nil => simp
  | cons d more =>
    rw [List.splitOnP_cons_eq_if_modifyHead, if_pos (by simpa using ends)]
    simp

theorem slugWords_longer (own : isSlugChar c = true) (next : isSlugChar d = true) (rest : List Char) :
    ∃ word others, slugWords (d :: rest) = word :: others ∧ slugWords (c :: d :: rest) = (c :: word) :: others := by
  obtain ⟨word, others, pieces⟩ := List.exists_cons_of_ne_nil (List.splitOnP_ne_nil (!isSlugChar ·) rest)
  refine ⟨d :: word, others.filter (· ≠ []), ?_, ?_⟩ <;>
    simp [slugWords, List.splitOnP_cons_eq_if_modifyHead, own, next, pieces]

end

theorem slugWords_letters (cs : List Char) : ∀ word ∈ slugWords cs, word ≠ [] ∧ ∀ c ∈ word, isSlugChar c = true := by
  induction cs with
  | nil => simp [slugWords]
  | cons c rest ih =>
    cases own : isSlugChar c with
    | false => rwa [slugWords_gap own]
    | true =>
      cases next : rest.head?.any isSlugChar with
      | false =>
        rw [slugWords_single own next]
        simpa [own] using ih
      | true =>
        obtain ⟨d, head, letter⟩ := (Option.any_eq_true ..).mp next
        obtain ⟨more, rfl⟩ := List.head?_eq_some_iff.mp head
        obtain ⟨word, others, before, after⟩ := slugWords_longer own letter more
        rw [before] at ih
        rw [after]
        simp only [List.forall_mem_cons] at ih ⊢
        exact ⟨⟨List.cons_ne_nil _ _, own, ih.1.2⟩, ih.2⟩

-- A separator that stands for itself and cannot be mistaken for a part of a word.
def Separates (separator : List Char) : Prop := ∀ c ∈ separator, c ≠ '$' ∧ isSlugChar c = false

theorem separatorParts_plain (plain : ∀ c ∈ separator, c ≠ '$') : separatorParts separator = separator.map .plain := by
  unfold separatorParts
  induction separator with
  | nil => rfl
  | cons c rest ih =>
    have first := plain c (List.mem_cons_self ..)
    unfold separatorFrom
    simp only [bne_iff_ne, ne_eq, first, not_false_eq_true, if_true, List.map_cons]
    rw [ih fun d member => plain d (List.mem_cons_of_mem _ member)]

theorem fillSeparator_plain (separator gap : List Char) : fillSeparator (separator.map .plain) gap = separator := by
  unfold fillSeparator
  rw [List.flatMap_map]
  exact List.flatMap_singleton' separator

-- The text starts with the separator if something is left out in front of its first word.
def leading (separator gap cs : List Char) : List Char :=
  if gap = [] ∧ cs.head?.all isSlugChar then [] else separator

-- Before the separators are tidied, one stands between any two words, and there may be one at each end.
theorem slugFrom_plain (separator gap cs : List Char) : ∃ back, (back = [] ∨ back = separator) ∧
    (slugWords cs = [] → back = []) ∧ slugFrom (separator.map .plain) gap cs =
      leading separator gap cs ++ (separator.intercalate (slugWords cs) ++ back) := by
  induction cs generalizing gap with
  | nil =>
    refine ⟨[], .inl rfl, fun _ => rfl, ?_⟩
    unfold slugFrom leading
    rw [fillSeparator_plain]
    cases gap <;> simp [slugWords]
  | cons c rest ih =>
    cases own : isSlugChar c with
    | false =>
      obtain ⟨back, choice, none, text⟩ := ih (c :: gap)
      refine ⟨back, choice, by rwa [slugWords_gap own], ?_⟩
      unfold slugFrom
      rw [if_neg (by simp [own]), text, slugWords_gap own]
      simp [leading, own]
    | true =>
      obtain ⟨back, choice, none, text⟩ := ih []
      have opened : (if gap.isEmpty then [] else fillSeparator (separator.map .plain) gap.reverse) =
          leading separator gap (c :: rest) := by
        rw [fillSeparator_plain]
        simp [leading, own]
      unfold slugFrom
      rw [if_pos own, opened, text]
      cases next : rest.head?.any isSlugChar with
      | true =>
        obtain ⟨d, head, letter⟩ := (Option.any_eq_true ..).mp next
        obtain ⟨more, rfl⟩ := List.head?_eq_some_iff.mp head
        obtain ⟨word, others, before, after⟩ := slugWords_longer own letter more
        refine ⟨back, choice, by simp [after], ?_⟩
        rw [before, after, intercalate_cons_head]
        simp [leading, letter]
      | false =>
        rw [slugWords_single own next]
        cases rest with
        | nil =>
          refine ⟨[], .inl rfl, fun _ => rfl, ?_⟩
          simp [leading, slugWords, none]
        | cons d more =>
          have gap : isSlugChar d = false := by simpa using next
          have front : leading separator [] (d :: more) = separator := by simp [leading, gap]
          rw [front]
          cases words : slugWords (d :: more) with
          | nil =>
            refine ⟨separator, .inr rfl, by simp, ?_⟩
            rw [none words]
            simp
          | cons word others =>
            refine ⟨back, choice, by simp, ?_⟩
            rw [List.intercalate_cons_cons]
            simp

section
variable {words : List (List Char)} {back : List Char}

theorem not_startsWith_words (filled : separator ≠ []) (other : ∀ c ∈ separator, isSlugChar c = false)
    (letters : ∀ word ∈ words, word ≠ [] ∧ ∀ c ∈ word, isSlugChar c = true) (ends : words = [] → back = []) :
    startsWith (separator.intercalate words ++ back) separator = false := by
  rw [← Bool.not_eq_true, startsWith_iff]
  by_cases some : words = []
  · simpa [some, ends some] using filled
  · obtain ⟨c, more, first, own⟩ := intercalate_first separator letters some
    obtain ⟨d, rest, rfl⟩ := List.exists_cons_of_ne_nil filled
    rw [first, List.cons_append, List.cons_prefix_cons]
    rintro ⟨rfl, -⟩
    cases own.symm.trans (other d (List.mem_cons_self ..))

theorem not_endsWith_words (filled : separator ≠ []) (other : ∀ c ∈ separator, isSlugChar c = false)
    (letters : ∀ word ∈ words, word ≠ [] ∧ ∀ c ∈ word, isSlugChar c = true) :
    endsWith (separator.intercalate words) separator = false := by
  rw [← Bool.not_eq_true, endsWith_iff]
  by_cases some : words = []
  · simpa [some] using filled
  · obtain ⟨front, c, last, own⟩ := intercalate_last separator letters some
    rw [last]
    rintro ⟨before, same⟩
    have final := congrArg List.getLast? same
    rw [List.getLast?_append_of_ne_nil _ filled, List.getLast?_concat, List.getLast?_eq_some_getLast filled,
      Option.some_inj] at final
    rw [← final] at own
    cases own.symm.trans (other _ (List.getLast_mem filled))

end

-- The three loops one after the other.
def Tidies (separator text slug : List Char) : Prop :=
  ∃ collapsed opened,
    Ends (holdsText (separator ++ separator)) (replaceAll (separator ++ separator) separator) text collapsed ∧
    Ends (startsWith · separator) (List.drop separator.length) collapsed opened ∧
    Ends (endsWith · separator) (fun cs => cs.take (cs.length - separator.length)) opened slug

theorem slugify_tidies (filled : separator ≠ []) (cs : List Char) :
    Tidies separator (slugFrom (separatorParts separator) [] (Unicode.lower cs)) (slugify separator cs) := by
  unfold slugify tidySeparators
  rw [if_neg (by simpa using filled)]
  generalize slugFrom (separatorParts separator) [] (Unicode.lower cs) = text
  have opened := stripFront_ends filled (collapseDoubled separator text.length text)
  have shorter := opened.keeps (fun cs => cs.length ≤ (collapseDoubled separator text.length text).length)
    (fun cs bound => (List.drop_suffix ..).length_le.trans bound) (Nat.le_refl _)
  exact ⟨_, _, collapseDoubled_ends filled text, opened, stripBack_ends filled _ shorter⟩

theorem Tidies.clean {slug : List Char} (tidies : Tidies separator text slug) :
    ¬separator <+: slug ∧ ¬separator <:+ slug ∧ ¬separator ++ separator <:+: slug := by
  obtain ⟨collapsed, opened, first, second, third⟩ := tidies
  have single : ¬separator ++ separator <:+: collapsed := mt holdsText_iff.mpr first.ended
  have front : ¬separator <+: opened := mt startsWith_iff.mpr second.ended
  have back : ¬separator <:+ slug := mt endsWith_iff.mpr third.ended
  have kept : ¬separator ++ separator <:+: opened :=
    second.keeps (fun cs => ¬separator ++ separator <:+: cs)
      (fun cs apart inside => apart (inside.trans (List.drop_suffix ..).isInfix)) single
  refine ⟨?_, back, ?_⟩
  · exact third.keeps (fun cs => ¬separator <+: cs)
      (fun cs apart start => apart (start.trans (List.take_prefix ..))) front
  · exact third.keeps (fun cs => ¬separator ++ separator <:+: cs)
      (fun cs apart inside => apart (inside.trans (List.take_prefix ..).isInfix)) kept

theorem tidies_words (filled : separator ≠ []) (separates : Separates separator) (cs : List Char) :
    Tidies separator (slugFrom (separatorParts separator) [] cs) (separator.intercalate (slugWords cs)) := by
  have other : ∀ c ∈ separator, isSlugChar c = false := fun c member => (separates c member).2
  have letters := slugWords_letters cs
  obtain ⟨back, choice, none, text⟩ := slugFrom_plain separator [] cs
  rw [separatorParts_plain fun c member => (separates c member).1, text]
  have short : back.length ≤ separator.length := by rcases choice with rfl | rfl <;> simp
  have start : (leading separator [] cs).length ≤ separator.length := by unfold leading; split <;> simp
  refine ⟨_, separator.intercalate (slugWords cs) ++ back, .stop ?_, ?_, ?_⟩
  · rw [← Bool.not_eq_true, holdsText_iff]
    intro held
    have long := gap_le letters none short (by simpa using other) start held
    have some := List.length_pos_iff.mpr filled
    rw [List.length_append] at long
    omega
  · have ended := not_startsWith_words filled other letters none
    unfold leading
    split
    · exact .stop ended
    · refine .turn (startsWith_iff.mpr (List.prefix_append ..)) ?_
      rw [List.drop_left]
      exact .stop ended
  · have ended := not_endsWith_words filled other letters
    rcases choice with rfl | rfl
    · rw [List.append_nil]
      exact .stop ended
    · refine .turn (endsWith_iff.mpr (List.suffix_append ..)) ?_
      rw [List.length_append, Nat.add_sub_cancel, List.take_left]
      exact .stop ended

theorem Tidies.unique {one two : List Char} (tidies : Tidies separator text one) (other : Tidies separator text two) :
    one = two := by
  obtain ⟨_, _, first, second, third⟩ := tidies
  obtain ⟨_, _, first', second', third'⟩ := other
  cases first.unique first'
  cases second.unique second'
  exact third.unique third'

-- What a slug is: the words alone where the separator cannot be mistaken for a part of them, and clean whatever it is.
structure IsSlug (separator text slug : List Char) : Prop where
  words : Separates separator → slug = separator.intercalate (slugWords text)
  tidies : separator ≠ [] → Tidies separator (slugFrom (separatorParts separator) [] text) slug
  front : separator ≠ [] → ¬separator <+: slug
  back : separator ≠ [] → ¬separator <:+ slug
  single : separator ≠ [] → ¬separator ++ separator <:+: slug

theorem slugify_words (separates : Separates separator) (cs : List Char) :
    slugify separator cs = separator.intercalate (slugWords (Unicode.lower cs)) := by
  by_cases filled : separator = []
  · subst filled
    obtain ⟨back, choice, none, text⟩ := slugFrom_plain [] [] (Unicode.lower cs)
    have empty : back = [] := by simpa using choice
    have front : leading [] [] (Unicode.lower cs) = [] := by simp [leading]
    rw [front, empty, List.nil_append, List.append_nil] at text
    exact text
  · exact (slugify_tidies filled cs).unique (tidies_words filled separates _)

-- Slugs are made of the words of the small text, and the loops that tidy them come to an end with any separator.
theorem fieldValue_slugify [Libraries] (options : TransformOptions) (row : Row) (s : String) : ∃ slug,
    fieldValue .slugify options row (.text s) = .text (String.ofList slug) ∧
      IsSlug (options.separator.getD defaultSeparator).toList (Unicode.lower s.toList) slug := by
  refine ⟨_, rfl, fun separates => slugify_words separates _, fun filled => slugify_tidies filled _, ?_, ?_, ?_⟩
  · exact fun filled => (slugify_tidies filled _).clean.1
  · exact fun filled => (slugify_tidies filled _).clean.2.1
  · exact fun filled => (slugify_tidies filled _).clean.2.2

example : slugify "--".toList " Hello,-- World!".toList = "hello--world".toList := rfl

end Transform
end TidyRows
