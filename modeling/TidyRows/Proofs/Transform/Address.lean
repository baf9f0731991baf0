import Mathlib.Data.List.DropRight
import TidyRows.Proofs.Text.Words
import TidyRows.Proofs.Transform.Casing
import TidyRows.Proofs.Unicode.Ascii
import TidyRows.Transform.Apply
namespace TidyRows.Transform
open Unicode
open Text (dropEndWhile)
variable {c mark : Char} {cs ds core word : List Char}

theorem dropEndWhile_lowerAscii (early : mark.toNat < 65) (cs : List Char) :
    dropEndWhile (· = mark) (cs.map lowerAscii) = (dropEndWhile (· = mark) cs).map lowerAscii := by
  have same : (fun c => decide (c = mark)) ∘ lowerAscii = fun c => decide (c = mark) := by
    funext c
    simp [lowerAscii_eq_iff early]
  unfold dropEndWhile
  rw [← List.map_reverse, List.dropWhile_map, same, List.map_reverse]

theorem dropEndWhile_subset (mark : Char) (cs : List Char) : dropEndWhile (· = mark) cs ⊆ cs :=
  (List.rdropWhile_prefix ..).subset

-- What is behind the commas at the end of a word goes, then this is done.
def tidyCore (core : List Char) : List Char :=
  match addressWords.lookup (String.ofList (lower (dropEndWhile (· = '.') core))) with
  | some short => short.toList
  | none =>
    if core.any isDigit then numberedWord core
    else if core.map lowerAscii = "p.o.".toList then "PO".toList
    else titleCase core

theorem addressWord_eq (word : List Char) : addressWord word =
    if Text.endsWith word [','] then tidyCore (dropEndWhile (· = ',') word) ++ [','] else tidyCore (dropEndWhile (· = ',') word) := rfl

inductive AddressKind where
  | known (short : String)
  | ordinal
  | numbered
  | box
  | plain

def endsAsOrdinal (small : List Char) : Bool := ["st", "nd", "rd", "th"].any fun ending => Text.endsWith small ending.toList

def addressKind (small : List Char) : AddressKind :=
  match addressWords.lookup (String.ofList (dropEndWhile (· = '.') small)) with
  | some short => .known short
  | none =>
    if small.any isDigit then
      if endsAsOrdinal small && (small.head?.map isDigit).getD false then .ordinal else .numbered
    else if small = "p.o.".toList then .box
    else .plain

def AddressKind.write : AddressKind → List Char → List Char
  | known short, _ => short.toList
  | ordinal, core => lower core
  | numbered, core => upper core
  | box, _ => "PO".toList
  | plain, core => titleCase core

theorem tidyCore_kind (low : Ascii core) : tidyCore core = (addressKind (lower core)).write core := by
  have small : lower (dropEndWhile (· = '.') core) = dropEndWhile (· = '.') (lower core) := by
    rw [lower_ascii low, dropEndWhile_lowerAscii (by decide),
      lower_ascii fun c member => low c (dropEndWhile_subset '.' core member)]
  have digits : (lower core).any isDigit = core.any isDigit := by
    rw [lower_ascii low, List.any_map]
    exact congrArg core.any (funext isDigit_lowerAscii)
  have first : (lower core).head?.map isDigit = core.head?.map isDigit := by
    rw [lower_ascii low, List.head?_map, Option.map_map]
    exact congrArg (Option.map · core.head?) (funext isDigit_lowerAscii)
  unfold tidyCore addressKind
  rw [small]
  cases addressWords.lookup (String.ofList (dropEndWhile (· = '.') (lower core))) with
  | some short => rfl
  | none =>
    dsimp only
    rw [digits, first, ← lower_ascii low]
    unfold numberedWord endsAsOrdinal
    split
    · dsimp only
      split <;> rfl
    · split <;> rfl

def Recased (ds cs : List Char) : Prop := Ascii ds ∧ lower ds = lower cs

theorem Recased.map (recased : Recased ds cs) (low : Ascii cs) : ds.map lowerAscii = cs.map lowerAscii := by
  rw [← lower_ascii recased.1, recased.2, lower_ascii low]

theorem Recased.of_map (plain : Ascii ds) (low : Ascii cs) (same : ds.map lowerAscii = cs.map lowerAscii) : Recased ds cs :=
  ⟨plain, by rw [lower_ascii plain, same, lower_ascii low]⟩

theorem lower_recased (low : Ascii cs) : Recased (lower cs) cs := by
  refine ⟨?_, lower_lower cs⟩
  rw [lower_ascii low]
  exact List.forall_mem_map.mpr fun c member => (ascii_cases (low c member)).1

theorem upper_recased (low : Ascii cs) : Recased (upper cs) cs := by
  rw [upper_ascii low]
  refine .of_map (List.forall_mem_map.mpr fun c member => (ascii_cases (low c member)).2.1) low ?_
  rw [List.map_map]
  exact List.map_congr_left fun c member => (ascii_cases (low c member)).2.2.2

theorem titleFrom_recased (low : Ascii cs) (atStart : Bool) : Recased (titleFrom atStart cs) cs := by
  suffices text : Ascii (titleFrom atStart cs) ∧ (titleFrom atStart cs).map lowerAscii = cs.map lowerAscii from
    .of_map text.1 low text.2
  induction cs generalizing atStart with
  | nil => exact ⟨nofun, rfl⟩
  | cons c rest ih =>
    obtain ⟨here, later⟩ := List.forall_mem_cons.mp low
    obtain ⟨small, capital, small_again, capital_again⟩ := ascii_cases here
    unfold titleFrom
    rw [lowerOf_ascii here, upperOf_ascii here]
    split
    · obtain ⟨plain, same⟩ := ih later true
      exact ⟨List.forall_mem_cons.mpr ⟨here, plain⟩, by rw [List.map_cons, List.map_cons, same]⟩
    · obtain ⟨plain, same⟩ := ih later false
      split
      · exact ⟨List.forall_mem_cons.mpr ⟨capital, plain⟩, by simp [same, capital_again]⟩
      · exact ⟨List.forall_mem_cons.mpr ⟨small, plain⟩, by simp [same, small_again]⟩

theorem titleCase_again (low : Ascii cs) : titleCase (titleCase cs) = titleCase cs := by
  refine (titleFrom_again_iff true cs).mpr fun c member => ?_
  rw [SingleCapital, upperOf_ascii (low c (wordStarts_subset true cs member))]
  intro d behind
  cases behind

-- A short form is its own short form, and a word.
theorem addressWords_settled : ∀ p ∈ addressWords, tidyCore p.2.toList = p.2.toList ∧
    dropEndWhile (· = ',') p.2.toList = p.2.toList ∧ p.2.toList ≠ [] ∧ ∀ c ∈ p.2.toList, isBlank c = false := by decide +kernel

theorem addressKind_known {small : List Char} {short : String} (known : addressKind small = .known short) :
    ∃ p ∈ addressWords, p.2 = short := by
  unfold addressKind at known
  split at known
  · rename_i found
    cases known
    exact lookup_mem found
  · repeat' split at known
    all_goals cases known

-- What a word becomes is a short form, or has its small letters and is of the same kind for that.
theorem tidyCore_cases (low : Ascii core) : (∃ p ∈ addressWords, tidyCore core = p.2.toList) ∨
    Recased (tidyCore core) core ∧ tidyCore (tidyCore core) = tidyCore core := by
  have again {ds : List Char} (recased : Recased ds core) : tidyCore ds = (addressKind (lower core)).write ds :=
    recased.2 ▸ tidyCore_kind recased.1
  rw [tidyCore_kind low]
  cases kind : addressKind (lower core) with
  | known short =>
    obtain ⟨p, member, rfl⟩ := addressKind_known kind
    exact .inl ⟨p, member, rfl⟩
  | box => exact .inl ⟨("po", "PO"), by decide, rfl⟩
  | ordinal =>
    have recased := lower_recased low
    rw [AddressKind.write, again recased, kind]
    exact .inr ⟨recased, lower_lower core⟩
  | numbered =>
    have recased := upper_recased low
    rw [AddressKind.write, again recased, kind]
    exact .inr ⟨recased, upper_upper core⟩
  | plain =>
    have recased := titleFrom_recased low true
    rw [AddressKind.write, titleCase, again recased, kind]
    exact .inr ⟨recased, titleCase_again low⟩

theorem tidyCore_again (low : Ascii core) : tidyCore (tidyCore core) = tidyCore core := by
  rcases tidyCore_cases low with ⟨p, member, same⟩ | ⟨_, again⟩
  · rw [same]
    exact (addressWords_settled p member).1
  · exact again

theorem tidyCore_end (low : Ascii core) (clean : dropEndWhile (· = ',') core = core) :
    dropEndWhile (· = ',') (tidyCore core) = tidyCore core := by
  rcases tidyCore_cases low with ⟨p, member, same⟩ | ⟨recased, _⟩
  · rw [same]
    exact (addressWords_settled p member).2.1
  · have comma : (',' : Char).toNat < 65 := by decide
    have kept : (dropEndWhile (· = ',') (tidyCore core)).map lowerAscii = (tidyCore core).map lowerAscii := by
      rw [← dropEndWhile_lowerAscii comma, recased.map low, dropEndWhile_lowerAscii comma, clean]
    have whole : (dropEndWhile (· = ',') (tidyCore core)).length = (tidyCore core).length := by
      simpa using congrArg List.length kept
    exact (List.rdropWhile_prefix ..).eq_of_length whole

theorem tidyCore_ne_nil (low : Ascii core) (some : core ≠ []) : tidyCore core ≠ [] := by
  rcases tidyCore_cases low with ⟨p, member, same⟩ | ⟨recased, _⟩
  · rw [same]
    exact (addressWords_settled p member).2.2.1
  · intro empty
    have letters := recased.map low
    rw [empty] at letters
    exact some (List.map_eq_nil_iff.mp letters.symm)

theorem tidyCore_shown (low : Ascii core) (shown : ∀ c ∈ core, isBlank c = false) : ∀ c ∈ tidyCore core, isBlank c = false := by
  rcases tidyCore_cases low with ⟨p, member, same⟩ | ⟨recased, _⟩
  · rw [same]
    exact (addressWords_settled p member).2.2.2
  · intro d member
    obtain ⟨c, known, same⟩ := List.mem_map.mp (recased.map low ▸ List.mem_map_of_mem member)
    rw [← isBlank_lowerAscii, ← same, isBlank_lowerAscii, shown c known]

theorem endsWith_concat (front : List Char) (last mark : Char) : Text.endsWith (front ++ [last]) [mark] = (mark == last) := by
  simp [Text.endsWith, List.isSuffixOf, List.isPrefixOf]

theorem endsWith_of_clean (clean : dropEndWhile (· = mark) cs = cs) : Text.endsWith cs [mark] = false := by
  rcases List.eq_nil_or_concat cs with rfl | ⟨front, last, rfl⟩
  · rfl
  · rw [List.concat_eq_append] at clean ⊢
    have other := List.rdropWhile_eq_self_iff.mp clean (by simp)
    rw [endsWith_concat, beq_eq_false_iff_ne]
    rintro rfl
    simp at other

theorem clean_of_endsWith (other : Text.endsWith cs [mark] = false) : dropEndWhile (· = mark) cs = cs := by
  rcases List.eq_nil_or_concat cs with rfl | ⟨front, last, rfl⟩
  · rfl
  · rw [List.concat_eq_append] at other ⊢
    rw [endsWith_concat, beq_eq_false_iff_ne] at other
    exact List.rdropWhile_concat_neg _ _ _ (by simpa using other.symm)

theorem addressWord_again (low : Ascii word) : addressWord (addressWord word) = addressWord word := by
  have plain : Ascii (dropEndWhile (· = ',') word) := fun c member => low c (dropEndWhile_subset ',' word member)
  have clean : dropEndWhile (· = ',') (dropEndWhile (· = ',') word) = dropEndWhile (· = ',') word := List.rdropWhile_idempotent ..
  have ends := tidyCore_end plain clean
  have again := tidyCore_again plain
  rw [addressWord_eq word]
  generalize tidyCore (dropEndWhile (· = ',') word) = core at ends again
  split
  · have comma : dropEndWhile (· = ',') (core ++ [',']) = core := (List.rdropWhile_concat_pos _ _ ',' (by simp)).trans ends
    rw [addressWord_eq, comma, again, if_pos (by simp [endsWith_concat])]
  · rw [addressWord_eq, ends, again, if_neg (by simp [endsWith_of_clean ends])]

theorem addressWord_word (low : Ascii word) (some : word ≠ []) (shown : ∀ c ∈ word, isBlank c = false) :
    addressWord word ≠ [] ∧ ∀ c ∈ addressWord word, isBlank c = false := by
  have within := dropEndWhile_subset ',' word
  have plain : Ascii (dropEndWhile (· = ',') word) := fun c member => low c (within member)
  have visible : ∀ c ∈ dropEndWhile (· = ',') word, isBlank c = false := fun c member => shown c (within member)
  rw [addressWord_eq]
  split
  · refine ⟨by simp, fun c member => ?_⟩
    rcases List.mem_append.mp member with inside | comma
    · exact tidyCore_shown plain visible c inside
    · rw [List.mem_singleton.mp comma]
      decide
  · rename_i other
    have same := clean_of_endsWith (by simpa using other)
    exact ⟨tidyCore_ne_nil plain (same.symm ▸ some), tidyCore_shown plain visible⟩

theorem words_ascii (low : Ascii cs) (member : word ∈ Text.words cs) : Ascii word := by
  intro c known
  have inside := List.mem_flatten.mpr ⟨word, member, known⟩
  rw [Text.words_flatten] at inside
  exact low c (List.mem_of_mem_filter inside)

theorem normalizeAddress_words (low : Ascii cs) : Text.words (normalizeAddress cs) = (Text.words cs).map addressWord := by
  refine Text.words_joinWith (List.forall_mem_map.mpr fun word member => ?_)
  obtain ⟨some, shown⟩ := Text.words_shown word member
  exact addressWord_word (words_ascii low member) some shown

theorem normalizeAddress_again (low : Ascii cs) : normalizeAddress (normalizeAddress cs) = normalizeAddress cs := by
  have again : (Text.words (normalizeAddress cs)).map addressWord = (Text.words cs).map addressWord := by
    rw [normalizeAddress_words low, List.map_map]
    exact List.map_congr_left fun word member => addressWord_again (words_ascii low member)
  exact congrArg (Text.joinWith [' ']) again

-- As many words as before with single spaces between them, and nothing changes when they are tidied again.
theorem fieldValue_address_stays [Libraries] (options : TransformOptions) (row : Row) {s : String} (plain : Ascii s.toList) :
    ∃ out, fieldValue .normalizeAddress options row (.text s) = .text (String.ofList out) ∧
      out = Text.joinWith [' '] (Text.words out) ∧ (Text.words out).length = (Text.words s.toList).length ∧
      Stays .normalizeAddress options row (fieldValue .normalizeAddress options row (.text s)) := by
  have words := normalizeAddress_words plain
  refine ⟨normalizeAddress s.toList, rfl, ?_, by rw [words, List.length_map], ?_⟩
  · rw [words]
    rfl
  · exact (stays_text (fun _ => rfl) _).mpr (normalizeAddress_again plain)

section
open Bare

theorem fieldValue_address_corner : Ascii "12  NORTH main Street,, apt. 4b\tP.O. box 5TH ".toList ∧
    fieldValue .normalizeAddress .none .empty (.text "12  NORTH main Street,, apt. 4b\tP.O. box 5TH ") =
      .text "12 N Main St, Apt 4B PO Box 5th" ∧
    Stays .normalizeAddress .none .empty (.text "12 N Main St, Apt 4B PO Box 5th") := by
  have plain : Ascii "12  NORTH main Street,, apt. 4b\tP.O. box 5TH ".toList := by
    unfold Ascii
    decide
  have once : fieldValue .normalizeAddress .none .empty (.text "12  NORTH main Street,, apt. 4b\tP.O. box 5TH ") =
      .text "12 N Main St, Apt 4B PO Box 5th" := congrArg Value.text rfl
  obtain ⟨_, _, _, _, stays⟩ := fieldValue_address_stays .none .empty plain
  rw [once] at stays
  exact ⟨plain, once, stays⟩

end

end TidyRows.Transform
