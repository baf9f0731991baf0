import TidyRows.Proofs.Number.Written
import TidyRows.Value.Read
import TidyRows.Value.Written
namespace TidyRows.Read

-- What a number may stand before.
def Ends (rest : List Char) : Prop := ∀ c more, rest = c :: more → isDigit c = false ∧ c ≠ '.' ∧ c ≠ 'e' ∧ c ≠ 'E'

def NoDigit (rest : List Char) : Prop := ∀ c more, rest = c :: more → isDigit c = false

theorem ends_nil : Ends [] := nofun

theorem Ends.noDigit {rest : List Char} (ends : Ends rest) : NoDigit rest := fun c more head => (ends c more head).1

theorem noDigit_cons {c : Char} {rest : List Char} (other : isDigit c = false) : NoDigit (c :: rest) := by
  rintro _ _ ⟨⟩
  exact other

theorem spanDigits_append {ds rest : List Char} (all : ∀ c ∈ ds, isDigit c = true) (stop : NoDigit rest) :
    spanDigits (ds ++ rest) = (ds, rest) := by
  unfold spanDigits
  rw [List.takeWhile_append_of_pos all, List.dropWhile_append_of_pos all]
  cases rest with
  | nil => simp
  | cons c more =>
    have other := stop c more rfl
    simp [other]

section
variable {n : Numeral} {rest : List Char}

theorem wholePart?_text (sound : n.Sound) (stop : NoDigit rest) : wholePart? (n.whole ++ rest) = some (n.whole, rest) := by
  unfold wholePart?
  rw [spanDigits_append sound.whole stop]
  rcases sound.lead with zero | ⟨c, more, digits, lead⟩
  · rw [zero]
    rfl
  · rw [digits]
    split
    · rename_i same
      cases same
    · rename_i same
      cases same
      exact absurd rfl lead
    · rfl

theorem fractionPart?_text {fraction : List Char} (all : ∀ c ∈ fraction, isDigit c = true) (stop : NoDigit rest)
    (point : ∀ more, rest ≠ '.' :: more) : fractionPart? (Numeral.fractionText fraction ++ rest) = some (fraction, rest) := by
  cases fraction with
  | nil =>
    show fractionPart? rest = _
    unfold fractionPart?
    split
    · rename_i more
      exact absurd rfl (point more)
    · rfl
  | cons c more =>
    show fractionPart? ('.' :: (c :: more ++ rest)) = _
    rw [fractionPart?, spanDigits_append all stop]

theorem exponentPart?_text (exponent : Option Int) (ends : Ends rest) :
    exponentPart? (Numeral.exponentText exponent ++ rest) = some (exponent, rest) := by
  cases exponent with
  | none =>
    cases rest with
    | nil => rfl
    | cons c more =>
      obtain ⟨_, _, small, large⟩ := ends c more rfl
      show exponentPart? (c :: more) = _
      unfold exponentPart?
      simp [small, large]
  | some e =>
    have span : spanDigits (natText e.natAbs ++ rest) = (natText e.natAbs, rest) :=
      spanDigits_append (fun c member => isDigit_of_natText member) ends.noDigit
    have digits := digitsValue_natText e.natAbs
    show exponentPart? ('e' :: (if e < 0 then '-' else '+') :: (natText e.natAbs ++ rest)) = _
    cases text : natText e.natAbs with
    | nil => exact absurd text (Nat.toDigits_ne_nil)
    | cons c more =>
      rw [text] at span digits
      unfold exponentPart?
      by_cases negative : e < 0
      · simp only [true_or, if_true, if_pos negative, takeSign, span, digits]
        rw [Int.ofNat_natAbs_of_nonpos (Int.le_of_lt negative), Int.neg_neg]
      · simp only [true_or, if_true, if_neg negative, takeSign, span, digits]
        rw [Int.natAbs_of_nonneg (Int.not_lt.mp negative)]
        rfl

theorem numeral_head (sound : n.Sound) : ∃ c more, n.text = c :: more ∧ isDigit c = true := by
  obtain ⟨c, more, whole⟩ : ∃ c more, n.whole = c :: more := by
    rcases sound.lead with zero | ⟨c, more, digits, _⟩
    · exact ⟨_, _, zero⟩
    · exact ⟨c, more, digits⟩
  refine ⟨c, more ++ Numeral.fractionText n.fraction ++ Numeral.exponentText n.exponent, ?_, sound.whole c (by simp [whole])⟩
  unfold Numeral.text
  rw [whole]
  rfl

theorem fraction_stops (fraction : List Char) (stop : NoDigit rest) : NoDigit (Numeral.fractionText fraction ++ rest) := by
  cases fraction with
  | nil => exact stop
  | cons _ _ => exact noDigit_cons rfl

theorem exponent_stops (exponent : Option Int) (ends : Ends rest) : NoDigit (Numeral.exponentText exponent ++ rest) := by
  cases exponent with
  | none => exact ends.noDigit
  | some _ => exact noDigit_cons rfl

theorem exponent_no_point (exponent : Option Int) (ends : Ends rest) (more : List Char) :
    Numeral.exponentText exponent ++ rest ≠ '.' :: more := by
  intro same
  cases exponent with
  | none => exact (ends _ _ same).2.1 rfl
  | some _ => exact absurd (List.cons.inj same).1 (by decide)

theorem takeMinus_text (negative : Bool) (sound : n.Sound) :
    takeMinus (signText negative ++ (n.text ++ rest)) = (negative, n.text ++ rest) := by
  cases negative with
  | true => rfl
  | false =>
    obtain ⟨c, more, text, digit⟩ := numeral_head sound
    rw [text]
    show takeMinus (c :: (more ++ rest)) = _
    unfold takeMinus
    split
    · rename_i same
      rw [(List.cons.inj same).1] at digit
      cases digit
    · rfl

theorem number?_text (negative : Bool) (sound : n.Sound) (ends : Ends rest) :
    number? (signText negative ++ (n.text ++ rest)) =
      (literal? negative n.whole n.fraction n.exponent).map (·, rest) := by
  have exponentStops := exponent_stops n.exponent ends
  have parts : n.text ++ rest =
      n.whole ++ (Numeral.fractionText n.fraction ++ (Numeral.exponentText n.exponent ++ rest)) := by
    unfold Numeral.text
    rw [List.append_assoc, List.append_assoc]
  have whole := wholePart?_text sound (fraction_stops n.fraction exponentStops)
  have fraction := fractionPart?_text sound.fraction exponentStops (exponent_no_point n.exponent ends)
  have exponent := exponentPart?_text n.exponent ends
  unfold number?
  rw [takeMinus_text negative sound, parts]
  simp only [whole, fraction, exponent, Option.bind_eq_bind, Option.bind_some]
  cases literal? negative n.whole n.fraction n.exponent <;> rfl

theorem natText_sound (n : Nat) : Numeral.Sound ⟨natText n, [], none⟩ := by
  refine ⟨?_, fun c member => isDigit_of_natText member, nofun⟩
  show natText n = ['0'] ∨ ∃ c more, natText n = c :: more ∧ c ≠ '0'
  by_cases zero : n = 0
  · exact .inl (zero ▸ rfl)
  · obtain ⟨c, more, text⟩ := List.exists_cons_of_ne_nil (Nat.toDigits_ne_nil (n := n) (b := 10))
    refine .inr ⟨c, more, text, ?_⟩
    rintro rfl
    exact zero (natText_lead text)

theorem intText_sign (n : Int) : intText n = signText (n < 0) ++ natText n.natAbs := by
  unfold intText signText
  by_cases negative : n < 0 <;> simp [negative]

theorem literal?_whole (w : Whole) : literal? (w.val < 0) (natText w.val.natAbs) [] none = some (.whole w) := by
  have digits : digitsValue (digitsValue 0 (natText w.val.natAbs)) [] = w.val.natAbs := digitsValue_natText _
  have value : (if decide (w.val < 0) = true then -(w.val.natAbs : Int) else w.val.natAbs) = w.val := by
    simp only [decide_eq_true_eq]
    omega
  have plain : (decide (w.val < 0) && w.val.natAbs == 0) = false := by
    by_cases negative : w.val < 0
    · simp only [negative, decide_true, Bool.true_and, beq_eq_false_iff_ne]
      omega
    · simp [negative]
  have range : Whole.ofInt? w.val = some w := dif_pos ⟨w.lower, w.upper⟩
  unfold literal?
  dsimp only
  rw [digits, value, range, plain]
  rfl

theorem literal?_marked (negative : Bool) (marked : n.Marked) :
    literal? negative n.whole n.fraction n.exponent = finite? (Double.ofDecimal negative n.digits n.power) := by
  have plain : (n.fraction.isEmpty && n.exponent.isNone) = false := by
    rcases marked with fraction | exponent
    · simp [fraction]
    · cases power : n.exponent with
      | none => rw [power] at exponent; cases exponent
      | some _ => simp
  unfold literal?
  dsimp only
  rw [plain]
  rfl

theorem number?_whole (w : Whole) (ends : Ends rest) : number? (intText w.val ++ rest) = some (.whole w, rest) := by
  have read := number?_text (w.val < 0) (natText_sound w.val.natAbs) ends
  have text : (Numeral.mk (natText w.val.natAbs) [] none).text = natText w.val.natAbs := by
    simp [Numeral.text, Numeral.fractionText, Numeral.exponentText]
  rw [text, ← List.append_assoc, ← intText_sign] at read
  rw [read, literal?_whole]
  rfl

theorem number?_real (x : Finite) (ends : Ends rest) : number? (x.dataText ++ rest) = some (.real x, rest) := by
  have reads := numeral_reads x
  rw [dataText_numeral, List.append_assoc, number?_text x.negative reads.sound ends, literal?_marked _ reads.marked,
    reads.value]
  rfl

end

theorem hexValue?_hexDigit : ∀ d < 16, hexValue? (hexDigit d) = some d := by decide

theorem hexUnit?_text {n : Nat} (small : n < 65536) (rest : List Char) : hexUnit? (hexText4 n ++ rest) = some (n, rest) := by
  have digit (d : Nat) : hexValue? (hexDigit (d % 16)) = some (d % 16) := hexValue?_hexDigit _ (Nat.mod_lt _ (by decide))
  have number : hexNumber? (hexText4 n) = some n := by
    simp [hexNumber?, hexText4, digit]
    omega
  unfold hexUnit?
  rw [if_neg (by simp [hexText4]), show (hexText4 n ++ rest).take 4 = hexText4 n from rfl, number]
  rfl

theorem escapedUnit?_text {n : Nat} (small : n < 0xD800) (rest : List Char) :
    escapedUnit? (hexText4 n ++ rest) = some (Char.ofNat n, rest) := by
  unfold escapedUnit?
  rw [hexUnit?_text (by omega)]
  simp only [Option.bind_eq_bind, Option.bind_some]
  rw [if_neg (by omega), if_neg (by omega)]

section
variable {c : Char} (fuel : Nat) (done rest : List Char)

theorem string?_plain (quote : c ≠ '"') (backslash : c ≠ '\\') (large : ¬ c.toNat < 32) :
    string? (fuel + 1) done (c :: rest) = string? fuel (c :: done) rest := by
  rw [string?.eq_def]
  dsimp only
  split
  · rename_i same
    cases same
  · rename_i same
    exact absurd (List.cons.inj same).1 quote
  · rename_i same
    exact absurd (List.cons.inj same).1 backslash
  · rename_i same
    exact absurd (List.cons.inj same).1 backslash
  · rename_i same
    obtain ⟨rfl, rfl⟩ := List.cons.inj same
    rw [if_neg (by simp [large, backslash])]

theorem string?_letter {letter : Char} (known : simpleEscape? letter = some c) (short : letter ≠ 'u') :
    string? (fuel + 1) done ('\\' :: letter :: rest) = string? fuel (c :: done) rest := by
  rw [string?.eq_def]
  simp [known]

theorem string?_unit (small : c.toNat < 32) :
    string? (fuel + 1) done ('\\' :: 'u' :: (hexText4 c.toNat ++ rest)) = string? fuel (c :: done) rest := by
  have read : escapedUnit? (hexText4 c.toNat ++ rest) = some (c, rest) := by
    rw [escapedUnit?_text (by omega), Char.ofNat_toNat]
  rw [string?.eq_def]
  simp [read]

-- A character is read back from its escaped form in one step.
theorem string?_escaped (c : Char) :
    string? (fuel + 1) done (Written.escaped c ++ rest) = string? fuel (c :: done) rest := by
  have coded {n : Nat} (code : c.toNat = n) : c = Char.ofNat n := by rw [← code, Char.ofNat_toNat]
  unfold Written.escaped
  split_ifs with quote backslash line back tab behind feed small
  · exact string?_letter fuel done rest (by rw [quote]; rfl) (by decide)
  · exact string?_letter fuel done rest (by rw [backslash]; rfl) (by decide)
  · exact string?_letter fuel done rest (line ▸ rfl) (by decide)
  · exact string?_letter fuel done rest (back ▸ rfl) (by decide)
  · exact string?_letter fuel done rest (tab ▸ rfl) (by decide)
  · exact string?_letter fuel done rest (coded behind ▸ rfl) (by decide)
  · exact string?_letter fuel done rest (coded feed ▸ rfl) (by decide)
  · exact string?_unit fuel done rest small
  · exact string?_plain fuel done rest quote backslash small

end

theorem string?_text (done s rest : List Char) (room : s.length < fuel) :
    string? fuel done (s.flatMap Written.escaped ++ '"' :: rest) = some (String.ofList (done.reverse ++ s), rest) := by
  induction s generalizing fuel done with
  | nil =>
    cases fuel with
    | zero => cases room
    | succ fuel => simp [string?]
  | cons c more ih =>
    cases fuel with
    | zero => cases room
    | succ fuel =>
      rw [List.flatMap_cons, List.append_assoc, string?_escaped, ih _ (Nat.lt_of_succ_lt_succ room)]
      simp

end TidyRows.Read
