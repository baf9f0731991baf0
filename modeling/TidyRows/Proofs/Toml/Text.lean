import TidyRows.Proofs.Value.Tokens
import TidyRows.Toml.Written
namespace TidyRows
namespace Toml

-- Never more than `most` of the marks together, given how many the content goes on from, and no backslash that waits
-- for its character at the end.
def Holds (mark : Char) (escapes : Bool) (most : Nat) : (held : Bool) → (together : Nat) → List Char → Prop
  | held, _, [] => held = false
  | held, together, c :: rest =>
    if !held && c = mark then together < most ∧ Holds mark escapes most false (together + 1) rest
    else Holds mark escapes most (escapes && c = '\\' && !held) 0 rest

section
variable {mark : Char} {escapes held : Bool} {most together : Nat} {content : List Char}

theorem untilMark_content (holds : Holds mark escapes 0 held together content) (after : List Char) :
    untilMark mark escapes held (content ++ mark :: after) = some (content, after) := by
  induction content generalizing held together with
  | nil =>
    have free : held = false := holds
    simp [untilMark, free]
  | cons c rest ih =>
    rw [List.cons_append, untilMark]
    unfold Holds at holds
    split at holds
    · exact absurd holds.1 (Nat.not_lt_zero _)
    · rename_i inside
      rw [if_neg inside, ih holds]
      rfl

theorem holds_mark : Holds mark escapes most false together (mark :: content) ↔
    together < most ∧ Holds mark escapes most false (together + 1) content := by
  rw [Holds, if_pos (by simp)]

-- Where three marks begin behind a mark, only marks are left of the content.
theorem only_marks {after : List Char} (behind : Holds mark escapes 2 false (together + 1) content)
    (three : [mark, mark].isPrefixOf (content ++ (threeOf mark ++ after)) = true) :
    content = [] ∨ content = [mark] := by
  match content with
  | [] => exact .inl rfl
  | [c] =>
    rw [List.cons_append, List.isPrefixOf_cons_cons, Bool.and_eq_true, beq_iff_eq] at three
    rw [three.1]
    exact .inr rfl
  | c :: d :: more =>
    simp only [List.cons_append, List.isPrefixOf_cons_cons, Bool.and_eq_true, beq_iff_eq] at three
    obtain ⟨rfl, rfl, _⟩ := three
    have := (holds_mark.mp (holds_mark.mp behind).2).1
    omega

theorem untilThree_content (plain : mark ≠ '\\') (holds : Holds mark escapes 2 held together content)
    {after : List Char} (other : ∀ more, after ≠ mark :: more) :
    untilThree mark escapes held (content ++ (threeOf mark ++ after)) = some (content, after) := by
  have stop : after.takeWhile (· = mark) = [] := by
    cases after with
    | nil => rfl
    | cons c more =>
      have different : c ≠ mark := fun same => other more (by rw [same])
      simp [different]
  induction content generalizing held together with
  | nil =>
    have free : held = false := holds
    simp [untilThree, threeOf, free, stop]
  | cons c rest ih =>
    rw [List.cons_append, untilThree]
    unfold Holds at holds
    split at holds
    · rename_i closing
      have same : c = mark := by simpa using (Bool.and_eq_true_iff.mp closing).2
      split
      · rename_i three
        rcases only_marks holds.2 (Bool.and_eq_true_iff.mp three).2 with rfl | rfl
        · simp [threeOf, stop, same]
        · simp [threeOf, stop, same]
      · have free : (escapes && c = '\\' && !held) = false := by simp [same, plain]
        rw [free, ih holds.2]
        rfl
    · rename_i inside
      have inside : (!held && decide (c = mark)) = false := by simpa using inside
      rw [if_neg (by rw [inside]; simp), ih holds]
      rfl

end

-- How a text is resolved, character by character.
theorem upperDigit : ∀ d < 16, Read.hexValue? (upperAscii (hexDigit d)) = some d := by decide

theorem charOfHex?_upperHex4 (c : Char) (small : c.toNat < 128) : charOfHex? (upperHex4 c.toNat) = some c := by
  have digit (d : Nat) : Read.hexValue? (upperAscii (hexDigit (d % 16))) = some (d % 16) :=
    upperDigit _ (Nat.mod_lt _ (by decide))
  have number : Read.hexNumber? (upperHex4 c.toNat) = some c.toNat := by
    simp [Read.hexNumber?, upperHex4, hexText4, digit]
    omega
  unfold charOfHex?
  rw [number]
  have valid : c.toNat.isValidChar := c.valid
  simp [valid]

section
variable (lines : Bool) (rest : List Char)

theorem resolve_plain {c : Char} (backslash : c ≠ '\\') (shown : isPrintable c = true ∨ (lines = true ∧ c = '\n')) :
    resolve lines .text (c :: rest) = (resolve lines .text rest).map (c :: ·) := by
  have shown : (isPrintable c || (lines && c = '\n')) = true := by simpa using shown
  rw [resolve.eq_def]
  simp only [reduceCtorEq, if_false, decide_false, Bool.false_and, Bool.false_eq_true, backslash, shown, if_true]

theorem resolve_letter {letter c : Char} (known : escape? letter = some c) (space : isSpace letter = false)
    (unit : letter ≠ 'u' ∧ letter ≠ 'U') (line : letter ≠ '\n') :
    resolve lines .text ('\\' :: letter :: rest) = (resolve lines .text rest).map (c :: ·) := by
  rw [resolve]
  · simp [space, known]
  · exact fun _ _ _ _ _ same _ => unit.1 same
  · exact fun _ _ _ _ _ _ _ _ _ same _ => unit.2 same
  · exact line

theorem resolve_unit {c : Char} (small : c.toNat < 128) :
    resolve lines .text ('\\' :: 'u' :: (upperHex4 c.toNat ++ rest)) = (resolve lines .text rest).map (c :: ·) := by
  have read := charOfHex?_upperHex4 c small
  unfold upperHex4 hexText4 at read ⊢
  simp only [List.map_cons, List.map_nil, List.cons_append, List.nil_append] at read ⊢
  rw [resolve]
  simp [read]

theorem resolve_escaped (c : Char) :
    resolve lines .text (escaped lines c ++ rest) = (resolve lines .text rest).map (c :: ·) := by
  have coded {n : Nat} (code : c.toNat = n) : c = Char.ofNat n := by rw [← code, Char.ofNat_toNat]
  unfold escaped
  split_ifs with behind tab line kept feed back slash shown
  · exact resolve_letter lines rest (coded behind ▸ rfl) (by decide) (by decide) (by decide)
  · exact resolve_letter lines rest (tab ▸ rfl) (by decide) (by decide) (by decide)
  · exact resolve_plain lines rest (line ▸ by decide) (.inr ⟨kept, line⟩)
  · exact resolve_letter lines rest (line ▸ rfl) (by decide) (by decide) (by decide)
  · exact resolve_letter lines rest (coded feed ▸ rfl) (by decide) (by decide) (by decide)
  · exact resolve_letter lines rest (back ▸ rfl) (by decide) (by decide) (by decide)
  · rw [slash]
    exact resolve_letter lines rest rfl (by decide) (by decide) (by decide)
  · exact resolve_plain lines rest slash (.inl shown)
  · refine resolve_unit lines rest ?_
    simp only [isPrintable, Bool.or_eq_true, Bool.and_eq_true, decide_eq_true_eq] at shown
    omega

end

theorem resolve_escapedFrom (lines : Bool) (together : Nat) (s : List Char) :
    resolve lines .text (escapedFrom lines together s) = some s := by
  induction s generalizing together with
  | nil => rfl
  | cons c rest ih =>
    rw [escapedFrom]
    by_cases same : c = quote
    · rw [if_pos same, same]
      by_cases few : together < if lines then 2 else 0
      · rw [if_pos few, resolve_plain lines _ (by decide) (.inl (by decide)), ih]
        rfl
      · rw [if_neg few, resolve_letter lines _ (show escape? quote = some quote from rfl) (by decide) (by decide)
          (by decide), ih]
        rfl
    · rw [if_neg same, resolve_escaped lines _ c, ih]
      rfl

-- What an escaped text is closed by.
theorem holds_other {mark c : Char} {escapes : Bool} {most together : Nat} {content : List Char} (different : c ≠ mark)
    (plain : c ≠ '\\') (rest : Holds mark escapes most false 0 content) :
    Holds mark escapes most false together (c :: content) := by
  rw [Holds, if_neg (by simp [different])]
  simpa [plain] using rest

theorem holds_escape {c : Char} {most together : Nat} {content : List Char}
    (rest : Holds quote true most false 0 content) :
    Holds quote true most false together ('\\' :: c :: content) := by
  rw [Holds, if_neg (by decide), Holds]
  simpa using rest

theorem holds_digits {most : Nat} {content : List Char} (n : Nat) (rest : Holds quote true most false 0 content) :
    Holds quote true most false 0 (upperHex4 n ++ content) := by
  have digit : ∀ d < 16, upperAscii (hexDigit d) ≠ quote ∧ upperAscii (hexDigit d) ≠ '\\' := by decide
  have next {content : List Char} (d : Nat) (rest : Holds quote true most false 0 content) :
      Holds quote true most false 0 (upperAscii (hexDigit (d % 16)) :: content) := by
    obtain ⟨other, plain⟩ := digit (d % 16) (Nat.mod_lt _ (by decide))
    exact holds_other other plain rest
  exact next _ (next _ (next _ (next _ rest)))

theorem holds_escaped {lines : Bool} {c : Char} {most together : Nat} {content : List Char} (other : c ≠ quote)
    (rest : Holds quote true most false 0 content) :
    Holds quote true most false together (escaped lines c ++ content) := by
  unfold escaped
  split_ifs with behind tab line kept feed back slash shown
  all_goals first | exact holds_escape rest | exact holds_escape (holds_digits _ rest) | skip
  · exact holds_other other (line ▸ by decide) rest
  · exact holds_other other slash rest

theorem holds_escapedFrom (lines : Bool) (together : Nat) (s : List Char) :
    Holds quote true (if lines then 2 else 0) false together (escapedFrom lines together s) := by
  induction s generalizing together with
  | nil => rfl
  | cons c rest ih =>
    rw [escapedFrom]
    by_cases same : c = quote
    · rw [if_pos same, same]
      by_cases few : together < if lines then 2 else 0
      · rw [if_pos few]
        exact holds_mark.mpr ⟨few, ih _⟩
      · rw [if_neg few]
        exact holds_escape (ih 0)
    · rw [if_neg same]
      exact holds_escaped same (ih 0)

theorem longest_kept (mark : Char) (current longest : Nat) (s : List Char) :
    longest ≤ longestRun mark current longest s := by
  induction s generalizing current longest with
  | nil => exact Nat.le_refl _
  | cons c rest ih =>
    rw [longestRun]
    split
    · exact Nat.le_trans (Nat.le_max_left _ _) (ih _ _)
    · exact ih _ _

theorem holds_of_run {mark : Char} {most current longest : Nat} {s : List Char}
    (few : longestRun mark current longest s ≤ most) : Holds mark false most false current s := by
  induction s generalizing current longest with
  | nil => rfl
  | cons c rest ih =>
    rw [longestRun] at few
    by_cases same : c = mark
    · rw [if_pos same] at few
      have reached : current + 1 ≤ longestRun mark (current + 1) (max longest (current + 1)) rest :=
        Nat.le_trans (Nat.le_max_right _ _) (longest_kept _ _ _ _)
      rw [same]
      exact holds_mark.mpr ⟨Nat.le_trans reached few, ih few⟩
    · rw [if_neg same] at few
      rw [Holds, if_neg (by simp [same])]
      exact ih few

theorem shown_of_needs {s : List Char} (needs : (TextNeeds.of s).controls = false) {c : Char} (member : c ∈ s) :
    isPrintable c = true ∨ c = '\n' := by
  have never := List.any_eq_false.mp needs c member
  by_cases line : c = '\n'
  · exact .inr line
  · simpa [line] using never

theorem verbatim_shown {lines : Bool} {s : List Char}
    (shown : ∀ c ∈ s, isPrintable c = true ∨ (lines = true ∧ c = '\n')) : verbatim lines s = some s := by
  have all : s.all (fun c => isPrintable c || (lines && c = '\n')) = true := by
    rw [List.all_eq_true]
    intro c member
    simpa using shown c member
  exact if_pos all

-- What a text is like that stands as it is in its form.
def Suits (s : List Char) : TextForm → Prop
  | .quoted => True
  | .quotedLines => True
  | .verbatim => (∀ c ∈ s, isPrintable c = true) ∧ Holds apostrophe false 0 false 0 s
  | .verbatimLines => (∀ c ∈ s, isPrintable c = true ∨ c = '\n') ∧ Holds apostrophe false 2 false 0 s

theorem form_suits (s : List Char) : Suits s (TextForm.of s) := by
  unfold TextForm.of
  dsimp only
  split_ifs with plain verbatim quotes few line
  · trivial
  · simp only [Bool.and_eq_true, Bool.not_eq_true', decide_eq_true_eq] at verbatim
    obtain ⟨⟨controls, none⟩, oneLine⟩ := verbatim
    refine ⟨fun c member => ?_, holds_of_run (Nat.le_of_eq none)⟩
    refine (shown_of_needs controls member).resolve_right fun same => ?_
    have inside : s.contains '\n' = true := by simpa [same] using member
    exact absurd (inside.symm.trans oneLine) (by decide)
  · trivial
  · simp only [Bool.and_eq_true, Bool.not_eq_true', decide_eq_true_eq] at few
    exact ⟨fun c member => shown_of_needs few.1 member, holds_of_run few.2⟩
  · trivial
  · trivial

section
variable {mark : Char} {escapes : Bool} {content after : List Char}

-- One mark is not taken for three of them.
theorem not_three (holds : Holds mark escapes 0 false 0 content) (other : ∀ more, after ≠ mark :: more) (three : Char) :
    (List.replicate 3 three).isPrefixOf (mark :: (content ++ mark :: after)) = false := by
  by_cases same : three = mark
  · subst same
    cases content with
    | nil =>
      cases after with
      | nil => simp [List.replicate]
      | cons c more =>
        have different : c ≠ three := fun same => other more (by rw [same])
        simp [List.replicate, List.isPrefixOf, different.symm]
    | cons c more =>
      have different : c ≠ three := by
        rintro rfl
        exact absurd (holds_mark.mp holds).1 (Nat.not_lt_zero _)
      simp [List.replicate, List.isPrefixOf, different.symm]
  · simp [List.replicate, List.isPrefixOf, same]

theorem text?_quoted (holds : Holds quote true 0 false 0 content) (other : ∀ more, after ≠ quote :: more) :
    text? (quote :: (content ++ quote :: after)) = finished (resolve false .text content) after := by
  unfold text?
  rw [not_three holds other, not_three holds other]
  unfold lineText?
  simp [untilMark_content holds]

theorem text?_verbatim (holds : Holds apostrophe false 0 false 0 content) (other : ∀ more, after ≠ apostrophe :: more) :
    text? (apostrophe :: (content ++ apostrophe :: after)) = finished (verbatim false content) after := by
  unfold text?
  rw [not_three holds other, not_three holds other]
  unfold lineText?
  have different : apostrophe ≠ quote := by decide
  simp [untilMark_content holds, different]

theorem starts_with_three (mark : Char) (more : List Char) :
    (List.replicate 3 mark).isPrefixOf (threeOf mark ++ more) = true :=
  List.isPrefixOf_iff_prefix.mpr (List.prefix_append _ _)

theorem text?_quotedLines (holds : Holds quote true 2 false 0 content) (other : ∀ more, after ≠ quote :: more)
    {opening : List Char} (skipped : skipFirstLineEnd opening = content ++ (threeOf quote ++ after)) :
    text? (threeOf quote ++ opening) = finished (resolve true .text content) after := by
  unfold text?
  rw [if_pos (starts_with_three _ _), show (threeOf quote ++ opening).drop 3 = opening from rfl, skipped,
    untilThree_content (by decide) holds other]
  rfl

theorem text?_verbatimLines (holds : Holds apostrophe false 2 false 0 content)
    (other : ∀ more, after ≠ apostrophe :: more) {opening : List Char} (skipped : skipFirstLineEnd opening = content ++ (threeOf apostrophe ++ after)) :
    text? (threeOf apostrophe ++ opening) = finished (verbatim true content) after := by
  have different : (List.replicate 3 quote).isPrefixOf (threeOf apostrophe ++ opening) = false := rfl
  unfold text?
  rw [different, if_neg (by decide), if_pos (starts_with_three _ _),
    show (threeOf apostrophe ++ opening).drop 3 = opening from rfl, skipped, untilThree_content (by decide) holds other]
  rfl

end

-- The line end that a text of several lines starts with is taken off again, and none that is its own.
theorem skip_first {s body : List Char} (own : '\n' ∉ s → ∀ more, body ≠ '\n' :: more) :
    skipFirstLineEnd (firstLineEnd s ++ body) = body := by
  unfold firstLineEnd
  by_cases line : '\n' ∈ s
  · simp [line, skipFirstLineEnd]
  · rw [if_neg (by simpa using line), List.nil_append]
    unfold skipFirstLineEnd
    split
    · exact absurd rfl (own line _)
    · rfl

theorem upperHex4_shown (n : Nat) : ∀ d ∈ upperHex4 n, isPrintable d = true := by
  have digit : ∀ k < 16, isPrintable (upperAscii (hexDigit k)) = true := by decide
  have shown (k : Nat) : isPrintable (upperAscii (hexDigit (k % 16))) = true := digit _ (Nat.mod_lt _ (by decide))
  unfold upperHex4 hexText4
  simp [shown]

-- What is written of a text has no control characters, apart from its own line ends.
theorem escaped_shown {lines : Bool} {c d : Char} (member : d ∈ escaped lines c) :
    isPrintable d = true ∨ (d = '\n' ∧ c = '\n') := by
  have pair {a b : Char} (first : isPrintable a = true) (second : isPrintable b = true) (inside : d ∈ [a, b]) :
      isPrintable d = true := by
    rcases List.mem_pair.mp inside with rfl | rfl
    · exact first
    · exact second
  unfold escaped at member
  split_ifs at member with behind tab line kept feed back slash shown
  · exact .inl (pair rfl rfl member)
  · exact .inl (pair rfl rfl member)
  · exact .inr ⟨(List.mem_singleton.mp member).trans line, line⟩
  · exact .inl (pair rfl rfl member)
  · exact .inl (pair rfl rfl member)
  · exact .inl (pair rfl rfl member)
  · exact .inl (pair rfl rfl member)
  · rw [List.mem_singleton.mp member]
    exact .inl shown
  · rcases List.mem_cons.mp member with rfl | member
    · exact .inl rfl
    · rcases List.mem_cons.mp member with rfl | digit
      · exact .inl rfl
      · exact .inl (upperHex4_shown _ _ digit)

theorem escapedFrom_shown {lines : Bool} {together : Nat} {s : List Char} {d : Char}
    (member : d ∈ escapedFrom lines together s) : isPrintable d = true ∨ (d = '\n' ∧ '\n' ∈ s) := by
  induction s generalizing together with
  | nil => cases member
  | cons c rest ih =>
    have later {together : Nat} (inside : d ∈ escapedFrom lines together rest) :
        isPrintable d = true ∨ (d = '\n' ∧ '\n' ∈ c :: rest) :=
      (ih inside).imp_right fun line => ⟨line.1, List.mem_cons_of_mem _ line.2⟩
    rw [escapedFrom] at member
    by_cases same : c = quote
    · rw [if_pos same, same] at member
      by_cases few : together < if lines then 2 else 0
      · rw [if_pos few] at member
        rcases List.mem_cons.mp member with rfl | inside
        · exact .inl rfl
        · exact later inside
      · rw [if_neg few] at member
        rcases List.mem_cons.mp member with rfl | member
        · exact .inl rfl
        · rcases List.mem_cons.mp member with rfl | inside
          · exact .inl rfl
          · exact later inside
    · rw [if_neg same] at member
      rcases List.mem_append.mp member with here | inside
      · exact (escaped_shown here).imp_right fun line => ⟨line.1, by simp [line.2]⟩
      · exact later inside

-- Marks stand behind what is written, so that it does not start on a new line of its own.
theorem body_line {s content : List Char} {mark : Char} {after : List Char} (other : mark ≠ '\n')
    (shown : ∀ d ∈ content, isPrintable d = true ∨ (d = '\n' ∧ '\n' ∈ s)) (none : '\n' ∉ s) :
    ∀ more, content ++ (threeOf mark ++ after) ≠ '\n' :: more := by
  intro more same
  cases content with
  | nil => exact other (List.cons.inj same).1
  | cons c rest =>
    have first := shown c (by simp)
    rw [(List.cons.inj same).1] at first
    rcases first with printable | line
    · exact absurd printable (by decide)
    · exact none line.2

theorem text?_textChars (s : List Char) {after : List Char} (quotes : ∀ more, after ≠ quote :: more)
    (apostrophes : ∀ more, after ≠ apostrophe :: more) :
    text? (textChars s ++ after) = some (String.ofList s, after) := by
  have suits := form_suits s
  unfold textChars
  split
  · have read := text?_quoted (holds_escapedFrom false 0 s) quotes
    rw [resolve_escapedFrom, finished, Option.map_some] at read
    simpa using read
  · rename_i form
    rw [form] at suits
    have read := text?_verbatim suits.2 apostrophes
    rw [verbatim_shown fun c member => .inl (suits.1 c member), finished, Option.map_some] at read
    simpa using read
  · have own : '\n' ∉ s → ∀ more, escapedFrom true 0 s ++ (threeOf quote ++ after) ≠ '\n' :: more :=
      body_line (by decide) fun _ => escapedFrom_shown
    have read := text?_quotedLines (holds_escapedFrom true 0 s) quotes (skip_first own)
    rw [resolve_escapedFrom, finished, Option.map_some] at read
    simpa using read
  · rename_i form
    rw [form] at suits
    have shown : ∀ d ∈ s, isPrintable d = true ∨ (d = '\n' ∧ '\n' ∈ s) := fun d member =>
      (suits.1 d member).imp_right fun line => ⟨line, line ▸ member⟩
    have own : '\n' ∉ s → ∀ more, s ++ (threeOf apostrophe ++ after) ≠ '\n' :: more := body_line (by decide) shown
    have read := text?_verbatimLines suits.2 apostrophes (skip_first own)
    rw [verbatim_shown fun c member => (suits.1 c member).imp_right fun line => ⟨rfl, line⟩, finished,
      Option.map_some] at read
    simpa using read

theorem textChars_head (s : List Char) : ∃ c more, textChars s = c :: more ∧ (c = quote ∨ c = apostrophe) := by
  unfold textChars
  split
  · exact ⟨_, _, rfl, .inl rfl⟩
  · exact ⟨_, _, rfl, .inr rfl⟩
  · exact ⟨_, _, rfl, .inl rfl⟩
  · exact ⟨_, _, rfl, .inr rfl⟩

def Shown (cs : List Char) : Prop := ∀ d ∈ cs, isPrintable d = true ∨ d = '\n'

theorem shown_append {front back : List Char} (first : Shown front) (second : Shown back) : Shown (front ++ back) :=
  List.forall_mem_append.mpr ⟨first, second⟩

theorem shown_marks {mark : Char} (shown : isPrintable mark = true) (n : Nat) : Shown (List.replicate n mark) :=
  fun _ member => .inl (List.eq_of_mem_replicate member ▸ shown)

theorem firstLineEnd_shown (s : List Char) : Shown (firstLineEnd s) := by
  unfold firstLineEnd
  split
  · exact fun _ member => .inr (List.mem_singleton.mp member)
  · exact nofun

theorem textChars_shown (s : List Char) : Shown (textChars s) := by
  have suits := form_suits s
  have escaped (lines : Bool) : Shown (escapedFrom lines 0 s) := fun _ member =>
    (escapedFrom_shown member).imp_right And.left
  unfold textChars
  split
  · exact shown_append (shown_append (shown_marks rfl 1) (escaped false)) (shown_marks rfl 1)
  · rename_i form
    rw [form] at suits
    have itself : Shown s := fun d member => .inl (suits.1 d member)
    exact shown_append (shown_append (shown_marks rfl 1) itself) (shown_marks rfl 1)
  · exact shown_append (shown_append (shown_append (shown_marks rfl 3) (firstLineEnd_shown s)) (escaped true))
      (shown_marks rfl 3)
  · rename_i form
    rw [form] at suits
    exact shown_append (shown_append (shown_append (shown_marks rfl 3) (firstLineEnd_shown s)) suits.1)
      (shown_marks rfl 3)

end Toml
end TidyRows
