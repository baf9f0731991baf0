import TidyRows.Proofs.Keyed
import TidyRows.Proofs.Number.Literal
import TidyRows.Proofs.Text.Blanks
import TidyRows.Proofs.Text.Replacing
import TidyRows.Transform.Apply
namespace TidyRows

namespace Unicode
variable {c : Char}

-- No character before the first capital letter is a letter or has another case.
theorem fold_low (low : c.toNat < 65) : fold c = c := by
  have start : ∀ r ∈ foldRuns, 65 ≤ r.first := by decide +kernel
  unfold fold mapBy
  rw [List.find?_eq_none.mpr]
  intro r member covers
  have first := start r member
  simp only [CaseRun.covers, Bool.and_eq_true, decide_eq_true_eq] at covers
  omega

theorem alphabetic_low (low : c.toNat < 65) : isAlphabetic c = false := by
  unfold isAlphabetic Runs.contains alphabeticRuns Runs.holds
  rw [if_pos low]

end Unicode

theorem digit_low {c : Char} (digit : isDigit c = true) : c.toNat < 65 := by
  simp only [isDigit, Bool.and_eq_true, decide_eq_true_eq] at digit
  have high : c.toNat ≤ 57 := digit.2
  omega

theorem callingCode?_listed {country code : String} (listed : (country, code) ∈ callingCodes) :
    callingCode? country = some code.toList := by
  have all : ∀ p ∈ callingCodes, callingCode? p.1 = some p.2.toList := by decide +kernel
  exact all (country, code) listed

theorem countryCode?_listed {country code : String} (listed : (country, code) ∈ callingCodes) :
    countryCode? country.toList = some country := by
  have all : ∀ p ∈ callingCodes, countryCode? p.1.toList = some p.1 := by decide +kernel
  exact all (country, code) listed

theorem callingCode?_digits {country : String} {code : List Char} (found : callingCode? country = some code) :
    ∀ c ∈ code, isDigit c = true := by
  have all : ∀ p ∈ callingCodes, p.2.toList.all isDigit = true := by decide
  obtain ⟨text, listed, rfl⟩ := Option.map_eq_some_iff.mp found
  exact List.all_eq_true.mp (all _ (mem_of_lookup listed))

namespace Transform
variable {raw cs digits n m code : List Char} {country : String}

-- A number that can be dialled from any country: the calling code and what follows it.
structure International (digits : List Char) : Prop where
  decimal : ∀ c ∈ digits, isDigit c = true
  short : 8 ≤ digits.length
  long : digits.length ≤ 15
  first : digits.head? ≠ some '0'

theorem isPlausible_iff :
    isPlausible digits = true ↔ 8 ≤ digits.length ∧ digits.length ≤ 15 ∧ digits.head? ≠ some '0' := by
  simp only [isPlausible, Bool.and_eq_true, decide_eq_true_eq, bne_iff_ne, and_assoc]
  rfl

theorem International.passes (international : International digits) : plausible? digits = some digits :=
  if_pos (isPlausible_iff.mpr ⟨international.short, international.long, international.first⟩)

theorem plausible?_international {found : List Char} (decimal : ∀ c ∈ cs, isDigit c = true)
    (told : plausible? cs = some found) : International found := by
  unfold plausible? at told
  split at told
  · rename_i fits
    obtain ⟨short, long, first⟩ := isPlausible_iff.mp fits
    cases told
    exact ⟨decimal, short, long, first⟩
  · cases told

theorem northAmerican?_international (decimal : ∀ c ∈ cs, isDigit c = true) (told : northAmerican? cs = some digits) :
    International digits := by
  have part : (if cs.length = 11 && cs.head? = some '1' then cs.drop 1 else cs) ⊆ cs := by
    split
    · exact List.drop_subset ..
    · exact List.Subset.refl _
  unfold northAmerican? at told
  dsimp only at told
  generalize (if cs.length = 11 && cs.head? = some '1' then cs.drop 1 else cs) = national at part told
  obtain ⟨valid, same⟩ := Option.ite_none_right_eq_some.mp told
  cases same
  have ten : national.length = 10 := by
    simp only [isNorthAmerican, Bool.and_eq_true, decide_eq_true_eq] at valid
    exact valid.1
  refine ⟨?_, ?_, ?_, by simp⟩
  · intro c member
    rcases List.mem_cons.mp member with rfl | later
    · rfl
    · exact decimal c (part later)
  all_goals rw [List.length_cons, ten]; decide

theorem dropStart_subset (part cs : List Char) : dropStart part cs ⊆ cs := by
  unfold dropStart
  split
  · exact List.drop_subset ..
  · exact List.Subset.refl _

theorem nationalDigits_subset (country : String) (code digits : List Char) :
    nationalDigits country code digits ⊆ digits := by
  have trunk : (if keepsTrunkZero country then digits else dropStart ['0'] digits) ⊆ digits := by
    split
    · exact List.Subset.refl _
    · exact dropStart_subset ..
  unfold nationalDigits
  dsimp only
  split
  · exact List.Subset.trans (dropStart_subset ..) trunk
  · exact trunk

theorem phoneDigits?_international (told : phoneDigits? raw country = some digits) : International digits := by
  unfold phoneDigits? at told
  dsimp only at told
  have decimal : ∀ c ∈ (Text.trim (dropExtension (Text.trim raw))).filter isDigit, isDigit c = true :=
    fun _ member => (List.mem_filter.mp member).2
  split at told
  · cases told
  split at told
  · exact plausible?_international decimal told
  split at told
  · exact plausible?_international (fun c member => decimal c (List.mem_of_mem_drop member)) told
  split at told
  · cases told
  rename_i code found
  split at told
  · exact northAmerican?_international decimal told
  · refine plausible?_international (fun c member => ?_) told
    rcases List.mem_append.mp member with code | national
    · exact callingCode?_digits found c code
    · exact decimal c (nationalDigits_subset _ _ _ national)

-- A text in which nothing stands beside the digits but plus signs.
def Dialled (cs : List Char) : Prop := ∀ c ∈ cs, c = '+' ∨ isDigit c = true

namespace Dialled

theorem low (dialled : Dialled cs) : ∀ c ∈ cs, c.toNat < 65 := by
  intro c member
  rcases dialled c member with rfl | digit
  · decide
  · exact digit_low digit

theorem visible (dialled : Dialled cs) : ∀ c ∈ cs, Unicode.isBlank c = false := by
  intro c member
  rcases dialled c member with rfl | digit
  · decide
  · exact Text.digit_visible digit

theorem isExtension_cons {c : Char} {rest : List Char} (dialled : Dialled (c :: rest)) :
    isExtension (c :: rest) = false := by
  have marks : ∀ mark ∈ extensionMarks, mark.toList.head?.any (fun d => d != '+' && !isDigit d) = true := by decide
  have first : c ∈ c :: rest := List.mem_cons_self ..
  unfold isExtension
  dsimp only
  rw [List.dropWhile_cons_of_neg (by simp [dialled.visible c first]), List.any_eq_false]
  intro mark member found
  obtain ⟨d, start, other⟩ := (Option.any_eq_true ..).mp (marks mark member)
  obtain ⟨more, spelled⟩ := List.head?_eq_some_iff.mp start
  rw [spelled, List.map_cons, Unicode.fold_low (dialled.low c first)] at found
  simp only [Text.startsWith, List.isPrefixOf, Bool.and_eq_true, beq_iff_eq] at found
  obtain ⟨⟨rfl, -⟩, -⟩ := found
  rcases dialled d first with rfl | digit
  · cases other
  · simp [digit] at other

theorem dropExtension (dialled : Dialled cs) : dropExtension cs = cs := by
  induction cs with
  | nil => rfl
  | cons c rest ih =>
    unfold Transform.dropExtension
    rw [dialled.isExtension_cons, if_neg Bool.false_ne_true, ih fun d member => dialled d (List.mem_cons_of_mem _ member)]

theorem trimmed (dialled : Dialled cs) : Text.trim (Transform.dropExtension (Text.trim cs)) = cs := by
  rw [Text.trim_visible dialled.visible, dialled.dropExtension, Text.trim_visible dialled.visible]

theorem wordless (dialled : Dialled cs) : cs.any Unicode.isAlphabetic = false := by
  rw [List.any_eq_false]
  intro c member
  simp [Unicode.alphabetic_low (dialled.low c member)]

end Dialled

theorem dialled_digits (decimal : ∀ c ∈ digits, isDigit c = true) : Dialled digits :=
  fun c member => .inr (decimal c member)

-- Where nothing has to be trimmed and no word stands beside the number, the sign or the first digits choose the way.
theorem phoneDigits?_dialled (dialled : Dialled cs) (filled : cs ≠ []) (country : String) : phoneDigits? cs country =
    if cs.head? = some '+' then plausible? (cs.filter isDigit)
    else if Text.startsWith (cs.filter isDigit) ['0', '0'] then plausible? ((cs.filter isDigit).drop 2)
    else (callingCode? country).bind fun code =>
      if code = ['1'] then northAmerican? (cs.filter isDigit)
      else plausible? (code ++ nationalDigits country code (cs.filter isDigit)) := by
  unfold phoneDigits?
  dsimp only
  rw [dialled.trimmed, dialled.wordless, if_neg (by simpa using filled)]
  cases callingCode? country <;> rfl

-- Outside the North American plan, bare digits are a number of the country itself unless they start with two zeros.
theorem phoneDigits?_national (decimal : ∀ c ∈ digits, isDigit c = true) (filled : digits ≠ [])
    (inland : ¬['0', '0'] <+: digits) (found : callingCode? country = some code) (foreign : code ≠ ['1']) :
    phoneDigits? digits country = plausible? (code ++ nationalDigits country code digits) := by
  have signless : digits.head? ≠ some '+' := by
    intro same
    obtain ⟨more, rfl⟩ := List.head?_eq_some_iff.mp same
    cases decimal '+' (List.mem_cons_self ..)
  rw [phoneDigits?_dialled (dialled_digits decimal) filled, List.filter_eq_self.mpr decimal, if_neg signless,
    if_neg (mt Text.startsWith_iff.mp inland), found, Option.bind_some, if_neg foreign]

theorem phoneDigits?_plus (international : International digits) (country : String) :
    phoneDigits? ('+' :: digits) country = some digits := by
  have dialled : Dialled ('+' :: digits) := fun c member => (List.mem_cons.mp member).imp_right (international.decimal c)
  have number : ('+' :: digits).filter isDigit = digits := List.filter_eq_self.mpr international.decimal
  rw [phoneDigits?_dialled dialled (List.cons_ne_nil _ _), List.head?_cons, if_pos rfl, number]
  exact international.passes

theorem phoneDigits?_zeros (international : International digits) (country : String) :
    phoneDigits? ('0' :: '0' :: digits) country = some digits := by
  have decimal : ∀ c ∈ '0' :: '0' :: digits, isDigit c = true := by
    simpa [isDigit] using international.decimal
  have zeros : Text.startsWith ('0' :: '0' :: digits) ['0', '0'] = true :=
    Text.startsWith_iff.mpr (List.prefix_append ['0', '0'] digits)
  rw [phoneDigits?_dialled (dialled_digits decimal) (List.cons_ne_nil _ _), List.filter_eq_self.mpr decimal,
    List.head?_cons, if_neg (by decide), if_pos zeros]
  exact international.passes

def dialling (digits : List Char) : Value := .text (String.ofList ('+' :: digits))

theorem fieldValue_phone [Libraries] (options : TransformOptions) (row : Row) (s : String) :
    fieldValue .phoneE164 options row (.text s) = ((phoneDigits? s.toList ((options.defaultCountry.bind fun c =>
      countryCode? c.toList).getD defaultPhoneCountry)).map dialling).getD (.text s) := by
  unfold fieldValue phoneE164 phoneText?
  dsimp only [Option.bind_some]
  split <;> rename_i told <;> rw [told] <;> rfl

theorem phoneE164_result (options : TransformOptions) (v : Value) :
    phoneE164 options v = v ∨ ∃ digits, International digits ∧ phoneE164 options v = dialling digits := by
  unfold phoneE164
  dsimp only
  split
  · rename_i digits told
    obtain ⟨raw, _, read⟩ := Option.bind_eq_some_iff.mp told
    exact .inr ⟨digits, phoneDigits?_international read, rfl⟩
  · exact .inl rfl

-- A telephone number comes out untouched or international, and what is international every country leaves as it is, also
-- behind two zeros.
theorem fieldValue_phone_canonical [Libraries] (options later : TransformOptions) (row other : Row) :
    (∀ v, fieldValue .phoneE164 options row v = v ∨ ∃ digits, International digits ∧
      fieldValue .phoneE164 options row v = dialling digits ∧
      fieldValue .phoneE164 later other (dialling digits) = dialling digits) ∧
    ∀ digits, International digits →
      fieldValue .phoneE164 options row (.text (String.ofList ('0' :: '0' :: digits))) = dialling digits := by
  constructor
  · intro v
    refine (phoneE164_result options v).imp_right ?_
    rintro ⟨digits, international, told⟩
    refine ⟨digits, international, told, ?_⟩
    rw [dialling, fieldValue_phone, String.toList_ofList, phoneDigits?_plus international]
    rfl
  · intro digits international
    rw [fieldValue_phone, String.toList_ofList, phoneDigits?_zeros international]
    rfl

section
open Bare

theorem fieldValue_phone_london : fieldValue .phoneE164 .none .empty (.text "00442079460958") = .text "+442079460958" := by
  have london : International "442079460958".toList := ⟨List.all_eq_true.mp (by decide), by decide, by decide, by decide⟩
  have spelled : "00442079460958" = String.ofList ('0' :: '0' :: "442079460958".toList) := by decide
  rw [spelled, (fieldValue_phone_canonical .none .none .empty .empty).2 _ london]
  exact congrArg Value.text (by decide)

end

-- A number without its trunk zero that a country with this calling code can have.
structure National (code n : List Char) : Prop where
  decimal : ∀ c ∈ n, isDigit c = true
  first : n.head? ≠ some '0'
  short : 8 ≤ (code ++ n).length
  long : (code ++ n).length ≤ 15

-- Long numbers that start like the calling code are taken to hold it already.
def Swallows (code n : List Char) : Prop := code <+: n ∧ longNational ≤ n.length

instance (code n : List Char) : Decidable (Swallows code n) := inferInstanceAs (Decidable (_ ∧ _))

def abroad (code n : List Char) : List Char := if Swallows code n then n else code ++ n

theorem abroad_prefixed_iff (filled : code ≠ []) : abroad code n = code ++ n ↔ ¬Swallows code n := by
  unfold abroad
  split <;> rename_i swallowed <;> simp [swallowed, filled]

theorem abroad_eq_iff : abroad code n = abroad code m ↔
    n = m ∨ (n = code ++ m ∧ Swallows code n ∧ ¬Swallows code m) ∨ (m = code ++ n ∧ Swallows code m ∧ ¬Swallows code n) := by
  unfold abroad
  split <;> split <;> rename_i one other
  · simp [one, other]
  · have apart : n ≠ m := fun same => other (same ▸ one)
    simp [one, other, apart]
  · have apart : n ≠ m := fun same => one (same ▸ other)
    simp [one, other, apart, eq_comm]
  · simp [one, other]

theorem nationalDigits_trunk (trunk : keepsTrunkZero country = false) (code n : List Char) :
    code ++ nationalDigits country code ('0' :: n) = abroad code n := by
  have zero : dropStart ['0'] ('0' :: n) = n := rfl
  unfold nationalDigits abroad Swallows
  simp only [trunk, Bool.false_eq_true, if_false, zero, List.length_cons, Nat.lt_succ_iff]
  by_cases long : longNational ≤ n.length
  · rw [if_pos long, dropStart]
    simp only [Text.startsWith_iff, long, and_true]
    split
    · rename_i start
      exact (List.prefix_iff_eq_append.mp start)
    · rfl
  · simp [long]

theorem National.abroad_international (national : National code n) (decimal : ∀ c ∈ code, isDigit c = true)
    (start : ∃ c more, code = c :: more ∧ c ≠ '0') : International (abroad code n) := by
  unfold abroad
  split
  · rename_i swallowed
    have eight : 8 ≤ n.length := le_trans (by decide) swallowed.2
    have short : n.length ≤ (code ++ n).length := by simp
    exact ⟨national.decimal, eight, short.trans national.long, national.first⟩
  · obtain ⟨c, more, rfl, other⟩ := start
    refine ⟨?_, national.short, national.long, by simpa using other⟩
    intro d member
    exact (List.mem_append.mp member).elim (decimal d) (national.decimal d)

theorem callingCodes_start {country code : String} (listed : (country, code) ∈ callingCodes) :
    ∃ c more, code.toList = c :: more ∧ c ≠ '0' := by
  have all : ∀ p ∈ callingCodes, p.2.toList.head?.any (· != '0') = true := by decide
  obtain ⟨c, start, other⟩ := (Option.any_eq_true ..).mp (all (country, code) listed)
  obtain ⟨more, spelled⟩ := List.head?_eq_some_iff.mp start
  exact ⟨c, more, spelled, by simpa using other⟩

theorem keepsTrunkZero_listed {country code : String} (listed : (country, code) ∈ callingCodes) (other : country ≠ "IT") :
    keepsTrunkZero country = false := by
  have all : ∀ p ∈ callingCodes, p.1 ≠ "IT" → keepsTrunkZero p.1 = false := by decide
  exact all (country, code) listed other

theorem phoneDigits?_trunk {country code : String} (listed : (country, code) ∈ callingCodes) (foreign : code ≠ "1")
    (other : country ≠ "IT") (national : National code.toList n) :
    phoneDigits? ('0' :: n) country = some (abroad code.toList n) := by
  have found := callingCode?_listed listed
  have decimal : ∀ c ∈ '0' :: n, isDigit c = true := by simpa [isDigit] using national.decimal
  have inland : ¬['0', '0'] <+: '0' :: n := by
    rintro ⟨rest, same⟩
    cases same
    exact national.first rfl
  have far : code.toList ≠ ['1'] := fun same => foreign (String.toList_inj.mp same)
  rw [phoneDigits?_national decimal (List.cons_ne_nil _ _) inland found far,
    nationalDigits_trunk (keepsTrunkZero_listed listed other)]
  exact (national.abroad_international (callingCode?_digits found) (callingCodes_start listed)).passes

theorem dialling_inj : dialling n = dialling m ↔ n = m := by
  simp [dialling, String.ofList_inj]

-- A national number keeps its digits behind the calling code exactly where it is not swallowed, and one that is swallowed
-- becomes the same as the shorter number behind its first digits.
theorem fieldValue_phone_national [Libraries] {options : TransformOptions} {country code : String}
    (listed : (country, code) ∈ callingCodes) (foreign : code ≠ "1") (other : country ≠ "IT")
    (hint : (options.defaultCountry.bind fun c => countryCode? c.toList) = some country) (row : Row)
    {n m : List Char} (national : National code.toList n) (another : National code.toList m) :
    countryCode? country.toList = some country ∧
    fieldValue .phoneE164 options row (.text (String.ofList ('0' :: n))) = dialling (abroad code.toList n) ∧
    (fieldValue .phoneE164 options row (.text (String.ofList ('0' :: n))) = dialling (code.toList ++ n) ↔
      ¬Swallows code.toList n) ∧
    (fieldValue .phoneE164 options row (.text (String.ofList ('0' :: n))) =
        fieldValue .phoneE164 options row (.text (String.ofList ('0' :: m))) ↔
      n = m ∨ (n = code.toList ++ m ∧ Swallows code.toList n ∧ ¬Swallows code.toList m) ∨
        (m = code.toList ++ n ∧ Swallows code.toList m ∧ ¬Swallows code.toList n)) := by
  have told {n : List Char} (national : National code.toList n) :
      fieldValue .phoneE164 options row (.text (String.ofList ('0' :: n))) = dialling (abroad code.toList n) := by
    rw [fieldValue_phone, hint, Option.getD_some, String.toList_ofList, phoneDigits?_trunk listed foreign other national]
    rfl
  obtain ⟨c, more, spelled, _⟩ := callingCodes_start listed
  refine ⟨countryCode?_listed listed, told national, ?_, ?_⟩
  · rw [told national, dialling_inj, abroad_prefixed_iff (by simp [spelled])]
  · rw [told national, told another, dialling_inj, abroad_eq_iff]

def ofCountry (country : String) : TransformOptions := { TransformOptions.none with defaultCountry := some country }

section
open Bare

theorem fieldValue_phone_british :
    fieldValue .phoneE164 (ofCountry "GB") .empty (.text "02079460958") = .text "+442079460958" := by
  have hint : ((ofCountry "GB").defaultCountry.bind fun c => countryCode? c.toList) = some "GB" := rfl
  have national : National "44".toList "2079460958".toList :=
    ⟨List.all_eq_true.mp (by decide), by decide, by decide, by decide⟩
  have spelled : "02079460958" = String.ofList ('0' :: "2079460958".toList) := by decide
  rw [spelled, (fieldValue_phone_national (by decide) (by decide) (by decide) hint .empty national national).2.1]
  exact congrArg Value.text (by decide)

-- A German number of an area code that starts like the calling code is misread, and is the same as a shorter number.
theorem fieldValue_phone_swallowed : ("DE", "49") ∈ callingCodes ∧ National "49".toList "4961123456".toList ∧
    fieldValue .phoneE164 (ofCountry "DE") .empty (.text "04961123456") = .text "+4961123456" ∧
    fieldValue .phoneE164 (ofCountry "DE") .empty (.text "061123456") = .text "+4961123456" := by
  have known : countryCode? "DE".toList = some "DE" := rfl
  have digits : phoneDigits? "04961123456".toList "DE" = some "4961123456".toList ∧
      phoneDigits? "061123456".toList "DE" = some "4961123456".toList := by decide
  have number : dialling "4961123456".toList = .text "+4961123456" := congrArg Value.text (by decide)
  refine ⟨by decide, ⟨List.all_eq_true.mp (by decide), by decide, by decide, by decide⟩, ?_, ?_⟩
  · rw [fieldValue_phone, ofCountry, Option.bind_some, known, Option.getD_some, digits.1]
    exact number
  · rw [fieldValue_phone, ofCountry, Option.bind_some, known, Option.getD_some, digits.2]
    exact number

end

end Transform
end TidyRows
