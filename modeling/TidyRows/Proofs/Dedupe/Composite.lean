import TidyRows.Proofs.Text.Blanks
import TidyRows.Proofs.Text.Words
import TidyRows.Proofs.Unicode.Casing
import TidyRows.Step.Dedupe
namespace TidyRows
open Text (joinWith wordsBy trim)
open Unicode (isBlank isLetter isNumber)

namespace Text
variable {separates : Char → Bool} {c : Char} {cs : List Char}

-- Every stretch of separators becomes one space. `within` tells that the character before was one of them.
def collapseFrom (separates : Char → Bool) (within : Bool) : List Char → List Char
  | [] => []
  | c :: rest =>
    if separates c then if within then collapseFrom separates true rest else ' ' :: collapseFrom separates true rest
    else c :: collapseFrom separates false rest

def collapse (separates : Char → Bool) (cs : List Char) : List Char := collapseFrom separates false cs

theorem collapseFrom_shown (shown : separates c = false) (within : Bool) (rest : List Char) :
    collapseFrom separates within (c :: rest) = c :: collapseFrom separates false rest := by
  rw [collapseFrom, if_neg (by simp [shown])]

theorem collapseFrom_gap (gap : separates c = true) (rest : List Char) :
    collapseFrom separates true (c :: rest) = collapseFrom separates true rest := by
  rw [collapseFrom, if_pos gap, if_pos rfl]

theorem collapseFrom_opens (gap : separates c = true) (rest : List Char) :
    collapseFrom separates false (c :: rest) = ' ' :: collapseFrom separates true (c :: rest) := by
  rw [collapseFrom_gap gap, collapseFrom, if_pos gap, if_neg Bool.false_ne_true]

theorem collapse_start (separates : Char → Bool) (cs : List Char) : ∃ front, (front = [] ∨ front = [' ']) ∧
    collapse separates cs = front ++ collapseFrom separates true cs := by
  cases cs with
  | nil => exact ⟨[], .inl rfl, rfl⟩
  | cons c rest =>
    cases gap : separates c with
    | true => exact ⟨[' '], .inr rfl, collapseFrom_opens gap rest⟩
    | false => exact ⟨[], .inl rfl, (collapseFrom_shown gap false rest).trans (collapseFrom_shown gap true rest).symm⟩

-- Behind a separator there come the words with single spaces between them, and a space if the text ends in a gap.
theorem collapseFrom_words (separates : Char → Bool) (cs : List Char) : ∃ back, (back = [] ∨ back = [' ']) ∧
    (wordsBy separates cs = [] → back = []) ∧
    collapseFrom separates true cs = joinWith [' '] (wordsBy separates cs) ++ back := by
  induction cs with
  | nil => exact ⟨[], .inl rfl, fun _ => rfl, rfl⟩
  | cons c rest ih =>
    obtain ⟨back, choice, none, text⟩ := ih
    cases gap : separates c with
    | true =>
      rw [collapseFrom_gap gap, wordsBy_gap gap]
      exact ⟨back, choice, none, text⟩
    | false =>
      rw [collapseFrom_shown gap]
      cases rest with
      | nil =>
        have alone : wordsBy separates [c] = [[c]] := wordsBy_end gap nofun
        exact ⟨[], .inl rfl, fun _ => rfl, by rw [alone]; rfl⟩
      | cons d more =>
        cases next : separates d with
        | true =>
          have ends : ∀ e others, d :: more = e :: others → separates e = true := by
            rintro e others ⟨⟩
            exact next
          rw [collapseFrom_opens next, text, wordsBy_end gap ends]
          cases words : wordsBy separates (d :: more) with
          | nil => exact ⟨[' '], .inr rfl, nofun, by rw [none words]; rfl⟩
          | cons word others => exact ⟨back, choice, nofun, by rw [joinWith_cons]; simp⟩
        | false =>
          obtain ⟨word, others, words⟩ := wordsBy_first next more
          rw [collapseFrom_shown next, ← collapseFrom_shown next true, text, wordsBy_more gap next words, words, joinWith_eq,
            joinWith_eq, intercalate_cons_head]
          exact ⟨back, choice, nofun, rfl⟩

theorem trim_space (cs : List Char) : trim (' ' :: cs) = trim cs := by
  unfold trim
  rw [List.dropWhile_cons_of_pos (by decide)]

theorem trim_concat_space (cs : List Char) : trim (cs ++ [' ']) = trim cs := by
  unfold trim trimEnd dropEndWhile
  rw [List.dropWhile_append]
  split
  · rename_i blank
    rw [List.isEmpty_iff.mp blank]
    rfl
  · rw [List.reverse_append, List.reverse_singleton, List.singleton_append, List.dropWhile_cons_of_pos (by decide)]

-- Words without blanks are left of a text whose gaps have been collapsed and that has been trimmed.
theorem trim_collapse (blanks : ∀ c, isBlank c = true → separates c = true) (cs : List Char) :
    trim (collapse separates cs) = joinWith [' '] (wordsBy separates cs) := by
  have visible : ∀ word ∈ wordsBy separates cs, word ≠ [] ∧ ∀ c ∈ word, (!isBlank c) = true := by
    intro word member
    obtain ⟨some, shown⟩ := wordsBy_shown member
    refine ⟨some, fun c known => ?_⟩
    rw [Bool.not_eq_true', Bool.eq_false_iff]
    intro blank
    cases (shown c known).symm.trans (blanks c blank)
  have solid : trim (joinWith [' '] (wordsBy separates cs)) = joinWith [' '] (wordsBy separates cs) := by
    rw [joinWith_eq]
    by_cases some : wordsBy separates cs = []
    · rw [some]
      rfl
    · obtain ⟨c, more, first, start⟩ := intercalate_first [' '] visible some
      obtain ⟨front, d, last, final⟩ := intercalate_last [' '] visible some
      exact trim_ends ⟨c, more, first, by simpa using start⟩ ⟨front, d, last, by simpa using final⟩
  obtain ⟨front, opened, start⟩ := collapse_start separates cs
  obtain ⟨back, closed, _, text⟩ := collapseFrom_words separates cs
  rw [start, text]
  have closing : trim (joinWith [' '] (wordsBy separates cs) ++ back) = joinWith [' '] (wordsBy separates cs) := by
    rcases closed with rfl | rfl
    · rw [List.append_nil, solid]
    · rw [trim_concat_space, solid]
  rcases opened with rfl | rfl
  · exact closing
  · exact (trim_space _).trans closing

end Text

def compared (c : Char) : Bool := isLetter c || isNumber c

def loweredTexts (row : Row) (keys : List String) : List (List Char) :=
  keys.map fun k => Unicode.lower (cellText (row.get? k)).toList

structure InWords (cs : List Char) : Prop where
  made : ∀ c ∈ cs, compared c = true ∨ c = ' '
  single : ∀ gap, gap <:+: cs → (∀ c ∈ gap, compared c = false) → gap.length ≤ 1
  first : ∀ c more, cs = c :: more → compared c = true
  last : ∀ front c, cs = front ++ [c] → compared c = true

section
variable {c : Char} {ws : List (List Char)}

theorem blank_uncompared (blank : isBlank c = true) : compared c = false := by
  have each : ∀ n ∈ Unicode.blankCodes, Unicode.letterRuns.holds n = false ∧ Unicode.numberRuns.holds n = false := by
    decide +kernel
  obtain ⟨letter, number⟩ := each c.toNat (Unicode.isBlank_iff.mp blank)
  exact Bool.or_eq_false_iff.mpr ⟨letter, number⟩

theorem joinWith_inWords (letters : ∀ word ∈ ws, word ≠ [] ∧ ∀ c ∈ word, compared c = true) :
    InWords (joinWith [' '] ws) := by
  rw [Text.joinWith_eq]
  refine ⟨?_, ?_, ?_, ?_⟩
  · intro c member
    rw [← Text.joinWith_eq] at member
    rcases Text.mem_joinWith member with space | letter
    · exact .inr (List.mem_singleton.mp space)
    · obtain ⟨word, known, inside⟩ := List.mem_flatten.mp letter
      exact .inl ((letters word known).2 c inside)
  · intro gap inside other
    have framed : gap <:+: [] ++ ([' '].intercalate ws ++ []) := by simpa using inside
    exact Text.gap_le letters (fun _ => rfl) (Nat.zero_le _) other (Nat.zero_le _) framed
  · intro c more start
    obtain ⟨d, rest, first, own⟩ := Text.intercalate_first [' '] letters (fun none => by simp [none] at start)
    rw [first] at start
    exact (List.cons.inj start).1 ▸ own
  · intro front c final
    obtain ⟨before, d, last, own⟩ := Text.intercalate_last [' '] letters (fun none => by simp [none] at final)
    rw [last] at final
    have same : [d] = [c] := (List.append_inj' final rfl).2
    exact (List.cons.inj same).1 ▸ own

end

-- What a composite is of the lowered key values: their letters and numbers and the words that they stand in.
structure Composite (texts : List (List Char)) (cs : List Char) : Prop where
  words : InWords cs
  told : cs.filter compared = texts.flatten.filter compared
  collapsed : cs = trim (Text.collapse (fun c => !compared c) (joinWith [' '] texts))
  empty : cs = [] ↔ ∀ text ∈ texts, ∀ c ∈ text, compared c = false

section
variable {row : Row} {keys : List String}

theorem fuzzyComposite_eq (row : Row) (keys : List String) : fuzzyComposite row keys =
    joinWith [' '] (wordsBy (fun c => !compared c) (joinWith [' '] (loweredTexts row keys))) := rfl

theorem compositeWords_letters {cs : List Char} :
    ∀ word ∈ wordsBy (fun c => !compared c) cs, word ≠ [] ∧ ∀ c ∈ word, compared c = true := by
  intro word member
  obtain ⟨some, shown⟩ := Text.wordsBy_shown member
  exact ⟨some, fun c known => by simpa using shown c known⟩

theorem space_uncompared : ∀ c ∈ [' '], compared c = false := by
  intro c member
  rw [List.mem_singleton.mp member]
  exact blank_uncompared (by decide)

theorem fuzzyComposite_told (row : Row) (keys : List String) :
    (fuzzyComposite row keys).filter compared = (loweredTexts row keys).flatten.filter compared := by
  rw [fuzzyComposite_eq, Text.filter_joinWith space_uncompared, Text.wordsBy_flatten]
  simp only [Bool.not_not, List.filter_filter, Bool.and_self]
  exact Text.filter_joinWith space_uncompared _

theorem composite_fuzzyComposite (row : Row) (keys : List String) :
    Composite (loweredTexts row keys) (fuzzyComposite row keys) := by
  have words : InWords (fuzzyComposite row keys) := joinWith_inWords compositeWords_letters
  have told := fuzzyComposite_told row keys
  refine ⟨words, told, ?_, ?_⟩
  · exact (Text.trim_collapse (fun c blank => congrArg (!·) (blank_uncompared blank)) _).symm
  · have none : fuzzyComposite row keys = [] ↔ (fuzzyComposite row keys).filter compared = [] := by
      refine ⟨fun empty => by rw [empty]; rfl, fun empty => ?_⟩
      cases composite : fuzzyComposite row keys with
      | nil => rfl
      | cons c more =>
        rw [composite, List.filter_cons_of_pos (words.first c more composite)] at empty
        cases empty
    rw [none, told, List.filter_eq_nil_iff]
    simp only [List.mem_flatten, Bool.not_eq_true]
    exact ⟨fun each text known c member => each c ⟨text, known, member⟩,
      fun each c ⟨text, known, member⟩ => each text known c member⟩

theorem fuzzyComposite_small {c : Char} (member : c ∈ fuzzyComposite row keys) : Unicode.Small c := by
  have space : Unicode.Small ' ' := by decide
  rcases Text.mem_joinWith member with between | letter
  · exact List.mem_singleton.mp between ▸ space
  · rw [Text.wordsBy_flatten] at letter
    rcases Text.mem_joinWith (List.mem_of_mem_filter letter) with between | own
    · exact List.mem_singleton.mp between ▸ space
    · obtain ⟨text, known, inside⟩ := List.mem_flatten.mp own
      obtain ⟨key, _, rfl⟩ := List.mem_map.mp known
      exact Unicode.lower_small inside

theorem fuzzyComposite_again {other : Row} {key : String}
    (holds : other.get? key = some (.text (String.ofList (fuzzyComposite row keys)))) :
    fuzzyComposite other [key] = fuzzyComposite row keys := by
  have text : joinWith [' '] (loweredTexts other [key]) = fuzzyComposite row keys := by
    rw [loweredTexts, List.map_singleton, holds, joinWith, cellText, Value.cellText, String.toList_ofList]
    exact Unicode.lower_of_small fun c => fuzzyComposite_small
  rw [fuzzyComposite_eq other, text, fuzzyComposite_eq row, Text.wordsBy_joinWith (by simp [space_uncompared])]
  exact fun word member => Text.wordsBy_shown member

end

-- Whatever a row holds, its composite is words of letters and numbers, and stays what it is as the value of a key.
theorem fuzzyComposite_settled (row : Row) (keys : List String) :
    Composite (loweredTexts row keys) (fuzzyComposite row keys) ∧
    ∀ (other : Row) (key : String), other.get? key = some (.text (String.ofList (fuzzyComposite row keys))) →
      fuzzyComposite other [key] = fuzzyComposite row keys :=
  ⟨composite_fuzzyComposite row keys, fun _ _ => fuzzyComposite_again⟩

namespace SpelledLoosely

-- A sigma at the end of a word and a dotted capital, whose small form has a mark behind it.
def row : Row := .ofList [("name", .text "  \u039f\u03a3\u2014\u0130z, "), ("size", .text "\u2167\u00bd"), ("n", .bool true)]

def keys : List String := ["name", "size", "missing", "n"]

def text : String := "\u03bf\u03c2 i z \u2177\u00bd true"

def other : Row := .ofList [("text", .text text)]

theorem composite : fuzzyComposite row keys = text.toList := by decide +kernel

theorem loosely_settled : other.get? "text" = some (.text (String.ofList (fuzzyComposite row keys))) ∧
    fuzzyComposite other ["text"] = text.toList := by
  have holds : other.get? "text" = some (.text (String.ofList (fuzzyComposite row keys))) := by
    rw [composite, String.ofList_toList]
    rfl
  exact ⟨holds, ((fuzzyComposite_settled row keys).2 other "text" holds).trans composite⟩

end SpelledLoosely
end TidyRows
