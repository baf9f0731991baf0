import TidyRows.Proofs.Transform.Place
namespace TidyRows.Transform
open Unicode
variable {c : Char} {cs : List Char}

def wordStarts (atStart : Bool) : List Char → List Char
  | [] => []
  | c :: rest =>
    if isBlank c then wordStarts true rest
    else if atStart then c :: wordStarts false rest
    else wordStarts false rest

theorem wordStarts_subset (atStart : Bool) (cs : List Char) : wordStarts atStart cs ⊆ cs := by
  induction cs generalizing atStart with
  | nil => exact List.Subset.refl []
  | cons c rest ih =>
    unfold wordStarts
    split
    · exact List.subset_cons_of_subset c (ih true)
    · split
      · exact List.cons_subset_cons c (ih false)
      · exact List.subset_cons_of_subset c (ih false)

-- A capital form without capitals behind its first.
def SingleCapital (c : Char) : Prop := ∀ d ∈ (upperOf c).tail, lowerOf d = [d]

instance (c : Char) : Decidable (SingleCapital c) := inferInstanceAs (Decidable (∀ d ∈ (upperOf c).tail, lowerOf d = [d]))

section words
variable {front : List Char} (shown : ∀ c ∈ front, isBlank c = false)
include shown

theorem titleFrom_inside (rest : List Char) :
    titleFrom false (front ++ rest) = front.flatMap lowerOf ++ titleFrom false rest := by
  induction front with
  | nil => rfl
  | cons c more ih =>
    obtain ⟨here, later⟩ := List.forall_mem_cons.mp shown
    rw [List.cons_append, titleFrom, if_neg (by simp [here]), if_neg (by simp), ih later, List.flatMap_cons, List.append_assoc]

theorem wordStarts_inside (rest : List Char) : wordStarts false (front ++ rest) = wordStarts false rest := by
  induction front with
  | nil => rfl
  | cons c more ih =>
    obtain ⟨here, later⟩ := List.forall_mem_cons.mp shown
    rw [List.cons_append, wordStarts, if_neg (by simp [here]), if_neg (by simp), ih later]

end words

theorem flatMap_lowerOf_length (dotless : ∀ d ∈ cs, d.toNat ≠ 0x130) : (cs.flatMap lowerOf).length = cs.length := by
  induction cs with
  | nil => rfl
  | cons d more ih =>
    obtain ⟨here, later⟩ := List.forall_mem_cons.mp dotless
    rw [List.flatMap_cons, List.length_append, ih later, lowerOf, if_neg here, List.length_singleton, List.length_cons, Nat.add_comm]

theorem flatMap_lowerOf_eq_self_iff (dotless : ∀ d ∈ cs, d.toNat ≠ 0x130) :
    cs.flatMap lowerOf = cs ↔ ∀ d ∈ cs, lowerOf d = [d] := by
  induction cs with
  | nil => simp
  | cons d more ih =>
    obtain ⟨here, later⟩ := List.forall_mem_cons.mp dotless
    rw [List.forall_mem_cons, ← ih later, List.flatMap_cons, lowerOf, if_neg here]
    simp

theorem upperOf_tail_dotless (c : Char) : ∀ d ∈ (upperOf c).tail, d.toNat ≠ 0x130 := by
  have dotless : ∀ w ∈ upperWords, ∀ n ∈ w.2, (Char.ofNat n).toNat ≠ 0x130 := by decide
  intro d member
  rcases upperOf_cases c with ⟨word, known, same⟩ | ⟨_, same⟩ <;> rw [same] at member
  · obtain ⟨n, listed, rfl⟩ := List.mem_map.mp (List.mem_of_mem_tail member)
    exact dotless _ known n listed
  · cases member

theorem titleFrom_again_iff (atStart : Bool) (cs : List Char) :
    titleFrom atStart (titleFrom atStart cs) = titleFrom atStart cs ↔ ∀ c ∈ wordStarts atStart cs, SingleCapital c := by
  induction cs generalizing atStart with
  | nil => simp [titleFrom, wordStarts]
  | cons c rest ih =>
    cases blank : isBlank c with
    | true => simp [titleFrom, wordStarts, blank, ih]
    | false =>
      cases atStart with
      | false =>
        have shown : ∀ d ∈ lowerOf c, isBlank d = false := fun d member => (lowerOf_blank member).trans blank
        have small : (lowerOf c).flatMap lowerOf = lowerOf c := by
          rw [List.flatMap_congr fun d member => (lowerOf_small member).1]
          simp
        simp only [titleFrom, wordStarts, blank, Bool.false_eq_true, if_false]
        rw [titleFrom_inside shown, small, List.append_cancel_left_eq, ih]
      | true =>
        obtain ⟨first, more, capitals⟩ := List.exists_cons_of_ne_nil (upperOf_ne_nil c)
        have dotless : ∀ d ∈ more, d.toNat ≠ 0x130 := by simpa [capitals] using upperOf_tail_dotless c
        have shown : ∀ d ∈ upperOf c, isBlank d = false := fun d member => (upperOf_blank member).trans blank
        have capital : upperOf first = [first] := upperOf_upperOf (c := c) (by simp [capitals])
        have single : SingleCapital c ↔ ∀ d ∈ more, lowerOf d = [d] := by
          rw [SingleCapital, capitals]
          exact Iff.rfl
        rw [capitals] at shown
        obtain ⟨visible, inside⟩ := List.forall_mem_cons.mp shown
        simp only [titleFrom, wordStarts, blank, Bool.false_eq_true, if_false, if_true, capitals, List.cons_append, visible,
          capital, List.nil_append, List.cons.injEq, true_and, List.forall_mem_cons, single]
        rw [titleFrom_inside inside, ← ih, ← flatMap_lowerOf_eq_self_iff dotless]
        exact ⟨fun same => List.append_inj same (flatMap_lowerOf_length dotless), fun ⟨here, later⟩ => by rw [here, later]⟩

theorem titleFrom_starts (atStart : Bool) (cs : List Char) :
    ∀ d ∈ wordStarts atStart (titleFrom atStart cs), upperOf d = [d] := by
  induction cs generalizing atStart with
  | nil => nofun
  | cons c rest ih =>
    cases blank : isBlank c with
    | true => simpa [titleFrom, wordStarts, blank] using ih true
    | false =>
      have small : ∀ d ∈ lowerOf c, isBlank d = false := fun d member => (lowerOf_blank member).trans blank
      have shown : ∀ d ∈ upperOf c, isBlank d = false := fun d member => (upperOf_blank member).trans blank
      cases atStart with
      | false =>
        simp only [titleFrom, blank, Bool.false_eq_true, if_false]
        rw [wordStarts_inside small]
        exact ih false
      | true =>
        obtain ⟨first, more, capitals⟩ := List.exists_cons_of_ne_nil (upperOf_ne_nil c)
        have capital : upperOf first = [first] := upperOf_upperOf (c := c) (by simp [capitals])
        rw [capitals] at shown
        obtain ⟨visible, inside⟩ := List.forall_mem_cons.mp shown
        simp only [titleFrom, wordStarts, blank, Bool.false_eq_true, if_false, if_true, capitals, List.cons_append, visible]
        rw [wordStarts_inside inside, List.forall_mem_cons]
        exact ⟨capital, ih false⟩

theorem titleCase_settles (cs : List Char) : titleCase (titleCase (titleCase cs)) = titleCase (titleCase cs) := by
  refine (titleFrom_again_iff true (titleCase cs)).mpr fun c member => ?_
  rw [SingleCapital, titleFrom_starts true cs c member]
  nofun

theorem currencyCode_length (cs : List Char) : (currencyCode cs).length ≤ codeLength := List.length_take_le ..

theorem currencyCode_start {more : List Char} (start : currencyCode cs = c :: more) : isBlank c = false := by
  unfold currencyCode at start
  have trimmed := trim_upper cs
  cases capitals : upper (Text.trim cs) with
  | nil => simp [capitals] at start
  | cons d others =>
    rw [capitals] at start trimmed
    rw [← (List.cons.inj start).1]
    exact Text.trim_first trimmed

theorem currencyCode_again (cs : List Char) : currencyCode (currencyCode cs) = Text.trim (currencyCode cs) := by
  have within := Text.trim_within (currencyCode cs)
  have capitals : upper (Text.trim (currencyCode cs)) = Text.trim (currencyCode cs) :=
    upper_of_capitals fun c member => upper_capital (List.mem_of_mem_take (within.subset member))
  rw [currencyCode, capitals, List.take_of_length_le (within.length_le.trans (currencyCode_length cs))]

theorem currencyCode_settles (cs : List Char) :
    currencyCode (currencyCode (currencyCode cs)) = currencyCode (currencyCode cs) := by
  rw [currencyCode_again (currencyCode cs), currencyCode_again, Text.trim_trim]

theorem currencyCode_again_iff (cs : List Char) :
    currencyCode (currencyCode cs) = currencyCode cs ↔ ∀ c, (currencyCode cs).getLast? = some c → isBlank c = false := by
  rw [currencyCode_again]
  rcases List.eq_nil_or_concat (currencyCode cs) with empty | ⟨front, last, final⟩
  · simp [empty, Text.trim, Text.trimEnd, Text.dropEndWhile]
  · rw [List.concat_eq_append] at final
    constructor
    · intro still c last
      rw [final, List.getLast?_concat] at last
      rw [final] at still
      exact Option.some.inj last ▸ Text.trim_last still
    · intro shown
      have visible := shown last (by rw [final, List.getLast?_concat])
      cases start : currencyCode cs with
      | nil => rfl
      | cons first more => exact Text.trim_ends ⟨first, more, rfl, currencyCode_start start⟩ ⟨front, last, start ▸ final, visible⟩

def caseKinds : List TransformKind := [.titleCase, .isoCountry, .isoState, .currencyCode]

def Stays [Libraries] (kind : TransformKind) (options : TransformOptions) (row : Row) (v : Value) : Prop := fieldValue kind options row v = v

theorem stays_text [Libraries] {kind : TransformKind} {options : TransformOptions} {row : Row} {f : List Char → List Char}
    (onText : ∀ s : String, fieldValue kind options row (.text s) = .text (String.ofList (f s.toList))) (cs : List Char) :
    Stays kind options row (.text (String.ofList cs)) ↔ f cs = cs := by
  rw [Stays, onText, Value.text.injEq, String.ofList_inj, String.toList_ofList]

-- What is tidied twice stays. What is tidied once stays as long as no word of a name begins with a character that has several
-- capitals with a capital letter behind the first, no character of a place has the capitals of other letters, and no blank is the
-- last of the three characters of a currency.
theorem fieldValue_case_settles [Libraries] (options : TransformOptions) (row : Row) (s : String) :
    (∀ kind ∈ caseKinds, Stays kind options row (fieldValue kind options row (fieldValue kind options row (.text s)))) ∧
    (Stays .titleCase options row (fieldValue .titleCase options row (.text s)) ↔
      ∀ c ∈ wordStarts true s.toList, SingleCapital c) ∧
    ((∀ c ∈ s.toList, c ∉ disguised) → Stays .isoCountry options row (fieldValue .isoCountry options row (.text s)) ∧
      Stays .isoState options row (fieldValue .isoState options row (.text s))) ∧
    ∃ code, fieldValue .currencyCode options row (.text s) = .text (String.ofList code) ∧ code.length ≤ codeLength ∧
      (∀ c, code.head? = some c → isBlank c = false) ∧
      (Stays .currencyCode options row (.text (String.ofList code)) ↔ ∀ c, code.getLast? = some c → isBlank c = false) := by
  have country : ∀ s : String, fieldValue .isoCountry options row (.text s) = .text (String.ofList (placeCode countryCode? s.toList)) :=
    fun s => congrArg (fun cs => Value.text (String.ofList cs)) (isoCountry_eq s.toList)
  have state : ∀ s : String, fieldValue .isoState options row (.text s) =
      .text (String.ofList (placeCode (stateCode? (stateCountry options row)) s.toList)) :=
    fun s => congrArg (fun cs => Value.text (String.ofList cs)) (isoState_eq options row s.toList)
  have title : ∀ s : String, fieldValue .titleCase options row (.text s) = .text (String.ofList (titleCase s.toList)) := fun _ => rfl
  have currency : ∀ s : String, fieldValue .currencyCode options row (.text s) = .text (String.ofList (currencyCode s.toList)) :=
    fun _ => rfl
  have states := stateCode?_coding (stateCountry options row)
  refine ⟨?_, ?_, fun own => ⟨?_, ?_⟩, currencyCode s.toList, currency s, currencyCode_length _, ?_, ?_⟩
  · simp only [caseKinds, List.forall_mem_cons, List.not_mem_nil, false_imp_iff, implies_true, and_true]
    refine ⟨?_, ?_, ?_, ?_⟩
    · rw [title, title, stays_text title, String.toList_ofList]
      exact titleCase_settles s.toList
    · rw [country, country, stays_text country, String.toList_ofList]
      exact placeCode_settles countryCode?_coding s.toList
    · rw [state, state, stays_text state, String.toList_ofList]
      exact placeCode_settles states s.toList
    · rw [currency, currency, stays_text currency, String.toList_ofList]
      exact currencyCode_settles s.toList
  · rw [title, stays_text title]
    exact titleFrom_again_iff true s.toList
  · rw [country, stays_text country]
    exact placeCode_again countryCode?_coding own
  · rw [state, stays_text state]
    exact placeCode_again states own
  · intro c first
    obtain ⟨more, start⟩ := List.head?_eq_some_iff.mp first
    exact currencyCode_start start
  · rw [stays_text currency]
    exact currencyCode_again_iff s.toList

section
open Bare

theorem fieldValue_case_zurich : fieldValue .isoCountry .none .empty (.text " Zürich") = .text "ZÜRICH" ∧
    Stays .isoCountry .none .empty (fieldValue .isoCountry .none .empty (.text " Zürich")) ∧
    Stays .isoState .none .empty (fieldValue .isoState .none .empty (.text " Zürich")) := by
  have own : ∀ c ∈ " Zürich".toList, c ∉ disguised := by decide
  obtain ⟨_, _, places, _⟩ := fieldValue_case_settles .none .empty " Zürich"
  exact ⟨congrArg Value.text rfl, places own⟩

-- The cut leaves a blank at the end, the second capital of one letter becomes small, and ligatures hide two names.
theorem fieldValue_case_unsettled :
    fieldValue .currencyCode .none .empty (.text "US D") = .text "US " ∧
    fieldValue .currencyCode .none .empty (.text "US ") = .text "US" ∧
    fieldValue .titleCase .none .empty (.text "ßen") = .text "SSen" ∧
    fieldValue .titleCase .none .empty (.text "SSen") = .text "Ssen" ∧
    fieldValue .isoCountry .none .empty (.text "ﬁnland") = .text "FINLAND" ∧
    fieldValue .isoCountry .none .empty (.text "FINLAND") = .text "FI" ∧
    fieldValue .isoState .none .empty (.text "ﬂorida") = .text "FLORIDA" ∧
    fieldValue .isoState .none .empty (.text "FLORIDA") = .text "FL" := by
  refine ⟨?_, ?_, ?_, ?_, ?_, ?_, ?_, ?_⟩ <;> exact congrArg Value.text (by decide +kernel)

end

end TidyRows.Transform
