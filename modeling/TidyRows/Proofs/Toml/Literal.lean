import TidyRows.Proofs.Number.Literal
import TidyRows.Proofs.Number.Plain
import TidyRows.Proofs.Toml.Text
import TidyRows.Toml.Read
namespace TidyRows
namespace Toml

theorem splitAt_absent {mark : Char} {cs : List Char} (absent : mark ∉ cs) : Text.splitAt mark cs = [cs] := by
  induction cs with
  | nil => rfl
  | cons c rest ih =>
    rw [List.mem_cons, not_or] at absent
    rw [Text.splitAt, ih absent.2]
    exact if_neg (Ne.symm absent.1)

theorem splitFirst_at {mark : Char} {front : List Char} (absent : mark ∉ front) (back : List Char) :
    Text.splitFirst mark (front ++ mark :: back) = some (front, back) := by
  have before : ∀ c ∈ front, (c != mark) = true := fun c member => bne_iff_ne.mpr fun same => absent (same ▸ member)
  unfold Text.splitFirst
  rw [List.dropWhile_append_of_pos before, List.takeWhile_append_of_pos before]
  simp

theorem ungrouped?_digits {cs : List Char} (some : cs ≠ []) (all : ∀ c ∈ cs, isDigit c = true) :
    ungrouped? isDigit cs = .some cs := by
  unfold ungrouped?
  rw [splitAt_absent (digits_without all rfl)]
  simpa [some] using all

theorem wholeDigits?_sound {n : Numeral} (sound : n.Sound) : wholeDigits? n.whole = some n.whole := by
  unfold wholeDigits?
  rcases sound.lead with zero | ⟨c, rest, whole, lead⟩
  · rw [zero]
    rfl
  · have some : n.whole ≠ [] := by rw [whole]; exact List.cons_ne_nil _ _
    rw [ungrouped?_digits some sound.whole, whole]
    simp [Option.filter, Text.startsWith, List.isPrefixOf, Ne.symm lead]

-- Words start with letters.
theorem flag?_number {c : Char} (start : c = '-' ∨ isDigit c = true) (rest : List Char) : flag? (c :: rest) = none := by
  have other {d : Char} (sign : d ≠ '-') (digit : isDigit d = false) : c ≠ d := by
    rcases start with rfl | start
    · exact sign.symm
    · exact digit_ne start digit
  unfold flag?
  rw [if_neg fun same => other (d := 't') (by decide) rfl (List.cons.inj same).1,
    if_neg fun same => other (d := 'f') (by decide) rfl (List.cons.inj same).1]

theorem whole?_decimal {cs : List Char} (plain : ∀ d more, cs = '0' :: d :: more → isDigit d = true ∨ d = '.') :
    whole? cs = decimalWhole? cs := by
  unfold whole?
  split
  · exact absurd (plain _ _ rfl) (by decide)
  · exact absurd (plain _ _ rfl) (by decide)
  · exact absurd (plain _ _ rfl) (by decide)
  · rfl

theorem literalOf?_whole {n : Nat} (small : n < wholeLimit) : literalOf? (natText n) = some (.whole n) := by
  have all : ∀ c ∈ natText n, isDigit c = true := fun c member => isDigit_of_natText member
  have sound := wholeDigits?_sound (Read.natText_sound n)
  have value := digitsValue_natText n
  have decimal : whole? (natText n) = decimalWhole? (natText n) := whole?_decimal fun d more text =>
    .inl (all d (by rw [text]; simp))
  have range : (-0x8000000000000000 : Int) ≤ n ∧ (n : Int) < 0x8000000000000000 := by unfold wholeLimit at small; omega
  obtain ⟨c, more, text⟩ := List.exists_cons_of_ne_nil (Nat.toDigits_ne_nil (n := n) (b := 10))
  have text : natText n = c :: more := text
  have digit : isDigit c = true := all c (by rw [text]; simp)
  unfold literalOf?
  rw [decimal]
  unfold decimalWhole?
  rw [text] at sound value ⊢
  rw [flag?_number (.inr digit), takeSign_digit digit]
  dsimp only at sound ⊢
  rw [sound, Option.bind_eq_bind, Option.bind_some, value]
  unfold word?
  simp [range]

-- A numeral with a fraction and no exponent is a decimal, and no whole number.
section
variable {n : Numeral} (sound : n.Sound)
include sound

theorem takeSign_numeral (negative : Bool) : takeSign (signText negative ++ n.text) = (negative, n.text) := by
  cases negative with
  | true => rfl
  | false =>
    obtain ⟨c, more, text, digit⟩ := Read.numeral_head sound
    rw [text]
    exact takeSign_digit digit more

variable (pointed : n.text = n.whole ++ '.' :: n.fraction)
include pointed

theorem pointed_char {c : Char} (member : c ∈ n.text) : isDigit c = true ∨ c = '.' := by
  rw [pointed, List.mem_append, List.mem_cons] at member
  rcases member with whole | rfl | fraction
  · exact .inl (sound.whole c whole)
  · exact .inr rfl
  · exact .inl (sound.fraction c fraction)

theorem pointed_absent {d : Char} (other : isDigit d = false) (point : d ≠ '.') : d ∉ n.text := fun member =>
  (pointed_char sound pointed member).elim (fun digit => digit_ne digit other rfl) point

theorem decimalWhole?_pointed (negative : Bool) : decimalWhole? (signText negative ++ n.text) = none := by
  have point : '.' ∈ n.text := by
    rw [pointed]
    exact List.mem_append_right _ List.mem_cons_self
  have grouped : ungrouped? isDigit n.text = none := by
    unfold ungrouped?
    rw [splitAt_absent (pointed_absent sound pointed rfl (by decide))]
    refine if_neg fun all => ?_
    have digits : n.text.all isDigit = true := by simpa using (And.right (by simpa using all))
    exact absurd (List.all_eq_true.mp digits '.' point) (by decide)
  unfold decimalWhole?
  rw [takeSign_numeral sound]
  dsimp only
  rw [wholeDigits?, grouped]
  rfl

theorem decimalReal?_pointed (fraction : n.fraction ≠ []) (plain : n.exponent = none) (negative : Bool) {x : Finite}
    (value : Double.ofDecimal negative n.digits n.power = .finite x) :
    decimalReal? (signText negative ++ n.text) = some (.real (.finite x)) := by
  have mantissa : n.text.takeWhile (fun c => !isExponentMark c) = n.text := by
    refine List.takeWhile_eq_self_iff.mpr fun c member => ?_
    have small := pointed_absent sound pointed (d := 'e') rfl (by decide)
    have large := pointed_absent sound pointed (d := 'E') rfl (by decide)
    have other : c ≠ 'e' ∧ c ≠ 'E' := ⟨fun same => small (same ▸ member), fun same => large (same ▸ member)⟩
    simp [isExponentMark, other]
  have parts := splitFirst_at (digits_without sound.whole (d := '.') rfl) n.fraction
  unfold decimalReal?
  rw [takeSign_numeral sound]
  dsimp only
  rw [mantissa, List.drop_length, pointed, parts]
  dsimp only
  rw [wholeDigits?_sound sound]
  have power : n.power = 0 - n.fraction.length := by
    unfold Numeral.power
    rw [plain]
    rfl
  simp only [Option.isNone_some, Bool.false_and, Bool.false_eq_true, if_false, Option.bind_eq_bind, Option.bind_some,
    fraction?, ungrouped?_digits fraction sound.fraction, exponent?]
  rw [← power]
  unfold Numeral.digits at value
  rw [value]

end

theorem plainNumeral_pointed (d : Decimal) : d.plainNumeral.fraction ≠ [] ∧ d.plainNumeral.exponent = none := by
  unfold Decimal.plainNumeral
  split
  · exact ⟨List.cons_ne_nil _ _, rfl⟩
  · refine ⟨?_, rfl⟩
    dsimp only
    split
    · exact List.cons_ne_nil _ _
    · rename_i some
      simpa using some

theorem text_of_pointed {n : Numeral} (fraction : n.fraction ≠ []) (plain : n.exponent = none) :
    n.text = n.whole ++ '.' :: n.fraction := by
  unfold Numeral.text
  rw [plain]
  cases parts : n.fraction with
  | nil => exact absurd parts fraction
  | cons c more => simp [Numeral.fractionText, Numeral.exponentText]

theorem realChars_head (x : Finite) :
    ∃ c more, realChars (.finite x) = c :: more ∧ (c = '-' ∨ isDigit c = true) := by
  obtain ⟨c, more, text, digit⟩ := Read.numeral_head (plainNumeral_reads x).sound
  rw [realChars_finite, text]
  cases x.negative with
  | true => exact ⟨_, _, rfl, .inl rfl⟩
  | false => exact ⟨_, _, rfl, .inr digit⟩

theorem literalOf?_real (x : Finite) : literalOf? (realChars (.finite x)) = some (.real (.finite x)) := by
  have reads := plainNumeral_reads x
  obtain ⟨fraction, plain⟩ := plainNumeral_pointed (shortestDecimal .up x.rank)
  have pointed := text_of_pointed fraction plain
  obtain ⟨c, more, text, start⟩ := realChars_head x
  have flag : flag? (realChars (.finite x)) = none := by rw [text, flag?_number start]
  rw [realChars_finite] at flag ⊢
  have whole : whole? (signText x.negative ++ (shortestDecimal .up x.rank).plainNumeral.text) = none := by
    rw [whole?_decimal, decimalWhole?_pointed reads.sound pointed]
    intro d more same
    refine pointed_char reads.sound pointed (c := d) ?_
    cases negative : x.negative with
    | true =>
      rw [negative] at same
      exact absurd (List.cons.inj same).1 (by decide)
    | false =>
      rw [negative] at same
      have same : (shortestDecimal .up x.rank).plainNumeral.text = '0' :: d :: more := same
      rw [same]
      simp
  unfold literalOf?
  rw [flag, whole, decimalReal?_pointed reads.sound pointed fraction plain x.negative reads.value]
  rfl

theorem literal?_line {cs : List Char} {v : Setting} (all : ∀ c ∈ cs, isLiteralChar c = true)
    (read : literalOf? cs = some v) (after : List Char) :
    literal? (cs ++ '\n' :: after) = some (v, '\n' :: after) := by
  have token : (cs ++ '\n' :: after).takeWhile isLiteralChar = cs := by
    rw [List.takeWhile_append_of_pos all]
    simp [show isLiteralChar '\n' = false from rfl]
  unfold literal?
  dsimp only
  rw [token, List.drop_left, read]
  rfl

namespace Scalar

def toSetting : Scalar → Setting
  | text s => .text s
  | whole n => .whole n
  | real x => .real x
  | flag b => .flag b

def Proper : Scalar → Prop
  | whole n => n < wholeLimit
  | real x => x.isFinite = true
  | _ => True

end Scalar

-- A written value: it holds no control characters, and it is read back when it stands at the end of a line.
structure Reads (cs : List Char) (v : Setting) : Prop where
  shown : Shown cs
  head : ∃ c more, cs = c :: more ∧ isSpace c = false
  read : ∀ fuel levels after, value? (fuel + 1) levels (cs ++ '\n' :: after) = some (v, '\n' :: after)

theorem reads_text (s : String) : Reads (textChars s.toList) (.text s) := by
  obtain ⟨c, more, text, mark⟩ := textChars_head s.toList
  refine ⟨textChars_shown _, ⟨c, more, text, ?_⟩, fun fuel levels after => ?_⟩
  · rcases mark with rfl | rfl
    · rfl
    · rfl
  · have read : text? (textChars s.toList ++ '\n' :: after) = some (String.ofList s.toList, '\n' :: after) :=
      text?_textChars s.toList (fun _ => by simp [quote]) (fun _ => by simp [apostrophe])
    rw [text, List.cons_append] at read ⊢
    rw [value?.eq_def]
    dsimp only
    rw [if_pos mark, read, String.ofList_toList]
    rfl

theorem literal_shown {c : Char} (literal : isLiteralChar c = true) : isPrintable c = true := by
  have range {first last : Char} (within : first ≤ c ∧ c ≤ last) (low : 32 ≤ first.toNat) (high : last.toNat < 127) :
      isPrintable c = true := by
    have above : first.toNat ≤ c.toNat := within.1
    have below : c.toNat ≤ last.toNat := within.2
    simp only [isPrintable, Bool.or_eq_true, Bool.and_eq_true, decide_eq_true_eq]
    omega
  unfold isLiteralChar Unicode.isAsciiLetter isDigit at literal
  simp only [Bool.or_eq_true, Bool.and_eq_true, decide_eq_true_eq] at literal
  rcases literal with (((((((small | large) | digit) | rfl) | rfl) | rfl) | rfl) | rfl)
  · exact range small (by decide) (by decide)
  · exact range large (by decide) (by decide)
  · exact range digit (by decide) (by decide)
  · rfl
  · rfl
  · rfl
  · rfl
  · rfl

theorem reads_literal {cs : List Char} {v : Setting} (some : cs ≠ []) (all : ∀ c ∈ cs, isLiteralChar c = true)
    (read : literalOf? cs = .some v) : Reads cs v := by
  obtain ⟨c, more, rfl⟩ := List.exists_cons_of_ne_nil some
  have first : isLiteralChar c = true := all c (by simp)
  have other {d : Char} (none : isLiteralChar d = false) : c ≠ d := by
    rintro rfl
    exact absurd (first.symm.trans none) (by decide)
  refine ⟨fun d member => .inl (literal_shown (all d member)), ⟨c, more, rfl, ?_⟩, fun fuel levels after => ?_⟩
  · simp [isSpace, other (d := ' ') rfl, other (d := '\t') rfl]
  · have line := literal?_line all read after
    rw [List.cons_append] at line ⊢
    rw [value?.eq_def]
    dsimp only
    have marks : ¬ (c = quote ∨ c = apostrophe) := not_or.mpr ⟨other rfl, other rfl⟩
    rw [if_neg marks, if_neg (other rfl), if_neg (other rfl), line]

theorem digit_literal {c : Char} (digit : isDigit c = true) : isLiteralChar c = true := by
  simp [isLiteralChar, digit]

theorem reads_whole {n : Nat} (small : n < wholeLimit) : Reads (natText n) (.whole n) :=
  reads_literal Nat.toDigits_ne_nil (fun _ member => digit_literal (isDigit_of_natText member)) (literalOf?_whole small)

theorem reads_real (x : Finite) : Reads (realChars (.finite x)) (.real (.finite x)) := by
  obtain ⟨c, more, text, _⟩ := realChars_head x
  obtain ⟨fraction, plain⟩ := plainNumeral_pointed (shortestDecimal .up x.rank)
  have some : realChars (.finite x) ≠ [] := by
    rw [text]
    exact List.cons_ne_nil _ _
  refine reads_literal some (fun c member => ?_) (literalOf?_real x)
  rw [realChars_finite] at member
  rcases List.mem_append.mp member with sign | inside
  · cases negative : x.negative with
    | true =>
      rw [negative] at sign
      rw [List.mem_singleton.mp sign]
      rfl
    | false =>
      rw [negative] at sign
      cases sign
  · rcases pointed_char (plainNumeral_reads x).sound (text_of_pointed fraction plain) inside with digit | rfl
    · exact digit_literal digit
    · rfl

theorem reads_flag (b : Bool) : ∃ cs, (Scalar.flag b).chars? = some cs ∧ Reads cs (.flag b) := by
  cases b with
  | true =>
    have word : ∀ c ∈ ['t', 'r', 'u', 'e'], isLiteralChar c = true := List.all_eq_true.mp rfl
    exact ⟨_, rfl, reads_literal (List.cons_ne_nil _ _) word rfl⟩
  | false =>
    have word : ∀ c ∈ ['f', 'a', 'l', 's', 'e'], isLiteralChar c = true := List.all_eq_true.mp rfl
    exact ⟨_, rfl, reads_literal (List.cons_ne_nil _ _) word rfl⟩

theorem scalar_reads {v : Scalar} (proper : v.Proper) : ∃ cs, v.chars? = some cs ∧ Reads cs v.toSetting := by
  cases v with
  | text s => exact ⟨_, rfl, reads_text s⟩
  | whole n => exact ⟨_, if_pos proper, reads_whole proper⟩
  | real x =>
    cases x with
    | nan => cases proper
    | infinite _ => cases proper
    | finite x => exact ⟨_, rfl, reads_real x⟩
  | flag b => exact reads_flag b

end Toml
end TidyRows
