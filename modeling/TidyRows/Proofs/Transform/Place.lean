import TidyRows.Proofs.Text.Blanks
import TidyRows.Proofs.Text.Words
import TidyRows.Proofs.Unicode.Casing
import TidyRows.Transform.Apply
namespace TidyRows
open Unicode
variable {c d : Char} {cs key : List Char} {names : List (String × String)}

-- The letters that the names of places are written with: a to z, é and ñ.
def placeLetters : List Nat := List.range' 97 26 ++ [233, 241]

-- What else has capitals that are those of the letters of the names.
def disguised : List Char := ['ß', 'ı', 'ſ', 'ﬀ', 'ﬁ', 'ﬂ', 'ﬃ', 'ﬄ', 'ﬅ', 'ﬆ']

def Spelt (c : Char) : Prop := ((97 ≤ c.toNat ∧ c.toNat ≤ 122) ∨ c.toNat = 233 ∨ c.toNat = 241) ∨ isBlank c = true

instance : Decidable (Spelt c) := inferInstanceAs (Decidable (_ ∨ _))

theorem Spelt.cases (spelt : Spelt c) : c.toNat ∈ placeLetters ∨ isBlank c = true := by
  refine spelt.imp_left fun letter => ?_
  simp only [placeLetters, List.mem_append, List.mem_range'_1, List.mem_cons, List.not_mem_nil, or_false]
  omega

theorem upperWords_spelt : ∀ w ∈ upperWords, Char.ofNat w.1 ∈ disguised ∨
    ∃ n ∈ w.2, ∃ e ∈ lowerOf (Char.ofNat n), ¬Spelt e := by decide +kernel

-- A small letter is none of the capitals, it comes of its capital, and little else comes to have this capital.
-- The Kelvin sign, which has a small letter too, is no capital of anything else.
theorem placeLetters_sources : ∀ n ∈ placeLetters, upperOf (Char.ofNat n) ≠ [Char.ofNat n] ∧
    (∀ r ∈ lowerRuns, r.covers (r.source n) = true → r.source n = n - 32 ∨ r.source n = 0x212A) ∧
    ∀ r ∈ upperRuns, r.covers (r.source (n - 32)) = true →
      r.source (n - 32) = n ∨ Char.ofNat (r.source (n - 32)) ∈ disguised := by decide +kernel

theorem kelvin_source : ∀ r ∈ upperRuns, r.covers (r.source 0x212A) = false := by decide +kernel

theorem capital_of_letter (capital : upperOf d = [d]) (letter : (mapBy lowerRuns d).toNat ∈ placeLetters) :
    d.toNat = (mapBy lowerRuns d).toNat - 32 ∨ d.toNat = 0x212A := by
  rcases lowerRuns_settled.sources d with still | ⟨r, member, covers, source⟩
  · rw [still] at letter
    have other := (placeLetters_sources _ letter).1
    rw [Char.ofNat_toNat] at other
    exact absurd capital other
  · rw [source]
    exact (placeLetters_sources _ letter).2.1 r member covers

theorem letter_of_capital (letter : c.toNat ∈ placeLetters) (capital : (mapBy upperRuns d).toNat = c.toNat - 32) :
    mapBy upperRuns d = d ∨ d = c ∨ d ∈ disguised := by
  rcases upperRuns_settled.sources d with still | ⟨r, member, covers, source⟩
  · exact .inl still
  · rw [capital] at covers source
    refine .inr ?_
    rcases (placeLetters_sources _ letter).2.2 r member covers with small | listed
    · exact .inl (Char.toNat_inj.mp (source.trans small))
    · rw [← source, Char.ofNat_toNat] at listed
      exact .inr listed

-- A character whose capitals have small letters of the names has the same small letters itself.
theorem upperOf_spelt (own : c ∉ disguised) (spelt : ∀ d ∈ upperOf c, ∀ e ∈ lowerOf d, Spelt e) :
    (upperOf c).flatMap lowerOf = lowerOf c := by
  rcases upperOf_cases c with ⟨word, known, same⟩ | ⟨_, same⟩
  · rcases upperWords_spelt _ known with listed | ⟨n, member, e, lowered, other⟩
    · rw [Char.ofNat_toNat] at listed
      exact absurd listed own
    · rw [same] at spelt
      exact absurd (spelt _ (List.mem_map_of_mem member) e lowered) other
  · have upper : mapBy upperRuns c ∈ upperOf c := by simp [same]
    have dotless : (mapBy upperRuns c).toNat ≠ 0x130 := by
      intro dotted
      have unspelt : ¬Spelt (Char.ofNat 0x307) := by decide
      exact unspelt (spelt _ upper _ (by simp [lowerOf, dotted]))
    have single : lowerOf (mapBy upperRuns c) = [mapBy lowerRuns (mapBy upperRuns c)] := if_neg dotless
    have lower : mapBy lowerRuns (mapBy upperRuns c) ∈ lowerOf (mapBy upperRuns c) := by simp [single]
    rw [same, List.flatMap_singleton]
    rcases (spelt _ upper _ lower).cases.symm with blank | letter
    · have alike := mem_lowerOf_untouched lower (untouched_of_blank blank)
      rw [alike] at blank
      rw [mem_upperOf_untouched upper (untouched_of_blank blank)]
    · rcases capital_of_letter (upperOf_upperOf upper) letter with capital | kelvin
      · rcases letter_of_capital letter capital with still | small | listed
        · rw [still]
        · rw [single, ← (lowerOf_small lower).1, ← small]
        · exact absurd listed own
      · rcases upperRuns_settled.sources c with still | ⟨r, member, covers, _⟩
        · rw [still]
        · rw [kelvin, kelvin_source r member] at covers
          cases covers

-- Dots read as blanks, as in `u.s.a.`.
def undotted (cs : List Char) : List Char := cs.map fun c => if c = '.' then ' ' else c

theorem upper_undotted (cs : List Char) : upper (undotted cs) = undotted (upper cs) := by
  unfold upper undotted
  rw [List.map_flatMap, List.flatMap_map]
  refine List.flatMap_congr fun c _ => ?_
  split
  · rename_i dot
    rw [dot, upperOf_untouched (by decide), upperOf_untouched (by decide)]
    rfl
  · rename_i other
    refine (List.map_id _).symm.trans (List.map_congr_left fun d member => (if_neg ?_).symm)
    rintro rfl
    exact other (mem_upperOf_untouched member (by decide)).symm

theorem placeKey_eq (cs : List Char) : placeKey cs = Transform.collapseBlanks (lower (undotted cs)) := rfl

theorem mem_collapseBlanks (member : c ∈ cs) (shown : isBlank c = false) : c ∈ Transform.collapseBlanks cs := by
  refine Text.mem_joinWith_flatten [' '] ?_
  rw [Text.words_flatten]
  exact List.mem_filter.mpr ⟨member, by simp [shown]⟩

section
variable (own : ∀ c ∈ cs, c ∉ disguised)
include own

theorem lower_upper (spelt : ∀ e ∈ lower (upper cs), Spelt e) : lower (upper cs) = lower cs := by
  have other : ∀ d ∈ upper cs, d.toNat ≠ 0x3A3 := by
    intro d member sigma
    obtain ⟨e, small, code⟩ := mem_lower_sigma member sigma
    have unspelt : ∀ n, n = 0x3C2 ∨ n = 0x3C3 → ¬Spelt (Char.ofNat n) := by
      rintro n (rfl | rfl) <;> decide
    have letter := spelt e small
    rw [← Char.ofNat_toNat e] at letter
    exact unspelt _ code letter
  have plain : ∀ c ∈ cs, c.toNat ≠ 0x3A3 := by
    intro c member sigma
    obtain rfl : c = Char.ofNat 0x3A3 := by rw [← sigma, Char.ofNat_toNat]
    have same : upperOf (Char.ofNat 0x3A3) = [Char.ofNat 0x3A3] := by decide +kernel
    exact other _ (List.mem_flatMap.mpr ⟨_, member, by simp [same]⟩) sigma
  rw [lower_flatMap other] at spelt ⊢
  rw [lower_flatMap plain, upper, List.flatMap_assoc]
  refine List.flatMap_congr fun c member => upperOf_spelt (own c member) fun d capital e small => ?_
  exact spelt e (List.mem_flatMap.mpr ⟨d, List.mem_flatMap.mpr ⟨c, member, capital⟩, small⟩)

theorem placeKey_upper (spelt : ∀ e ∈ placeKey (upper cs), Spelt e) : placeKey (upper cs) = placeKey cs := by
  have own : ∀ c ∈ undotted cs, c ∉ disguised := by
    intro d member
    obtain ⟨c, known, same⟩ := List.mem_map.mp member
    split at same
    · rw [← same]
      decide
    · exact same ▸ own c known
  rw [placeKey_eq, ← upper_undotted] at spelt ⊢
  rw [placeKey_eq, lower_upper own]
  intro e member
  by_cases blank : isBlank e = true
  · exact .inr blank
  · exact spelt e (mem_collapseBlanks member (by simpa using blank))

end

def SpeltNames (names : List (String × String)) : Prop := ∀ p ∈ names, ∀ c ∈ p.1.toList, Spelt c

instance : Decidable (SpeltNames names) := inferInstanceAs (Decidable (∀ p ∈ names, ∀ c ∈ p.1.toList, Spelt c))

theorem lookup_spelt {code : String} (spelt : SpeltNames names) (found : names.lookup (String.ofList key) = some code) :
    ∀ c ∈ key, Spelt c := by
  obtain ⟨front, back, same, _⟩ := List.lookup_eq_some_iff.mp found
  intro c member
  exact spelt (String.ofList key, code) (by simp [same]) c (by simpa using member)

theorem lookup_mem {code : String} (found : names.lookup (String.ofList key) = some code) : ∃ p ∈ names, p.2 = code := by
  obtain ⟨front, back, same, _⟩ := List.lookup_eq_some_iff.mp found
  exact ⟨(String.ofList key, code), by simp [same], rfl⟩

def stateCode? (country : String) (cs : List Char) : Option String :=
  (stateNames? country).bind fun names => names.lookup (String.ofList (placeKey cs))

def CapitalCode (code : String) : Prop := code.toList ≠ [] ∧ ∀ c ∈ code.toList, 65 ≤ c.toNat ∧ c.toNat ≤ 90

instance (code : String) : Decidable (CapitalCode code) := inferInstanceAs (Decidable (_ ∧ _))

-- What finds codes: it knows each as itself if at all, and in capitals no more names than without.
structure Coding (known : List Char → Option String) : Prop where
  capital : ∀ name code, known name = some code → CapitalCode code
  itself : ∀ name code, known name = some code → ∀ other, known code.toList = some other → other = code
  own : ∀ name code, (∀ c ∈ name, c ∉ disguised) → known (upper name) = some code → known name = some code

theorem countryNames_codes : SpeltNames countryNames ∧
    ∀ p ∈ countryNames, CapitalCode p.2 ∧ countryCode? p.2.toList = some p.2 := by decide +kernel

theorem countryCode?_spelt {code : String} (found : countryCode? cs = some code) : ∀ c ∈ placeKey cs, Spelt c := by
  intro c member
  rcases Option.or_eq_some_iff.mp found with whole | ⟨_, joined⟩
  · exact lookup_spelt countryNames_codes.1 whole c member
  · by_cases blank : c = ' '
    · exact .inr (blank ▸ by decide)
    · exact lookup_spelt countryNames_codes.1 joined c (List.mem_filter.mpr ⟨member, by simpa using blank⟩)

theorem countryCode?_coding : Coding countryCode? := by
  have listed {name : List Char} {code : String} (found : countryCode? name = some code) : ∃ p ∈ countryNames, p.2 = code := by
    rcases Option.or_eq_some_iff.mp found with whole | ⟨_, joined⟩
    · exact lookup_mem whole
    · exact lookup_mem joined
  refine ⟨fun name code found => ?_, fun name code found other again => ?_, fun name code own found => ?_⟩
  · obtain ⟨p, member, rfl⟩ := listed found
    exact (countryNames_codes.2 p member).1
  · obtain ⟨p, member, rfl⟩ := listed found
    exact Option.some.inj (again.symm.trans (countryNames_codes.2 p member).2)
  · have same := placeKey_upper own (countryCode?_spelt found)
    unfold countryCode? at found ⊢
    rwa [same] at found

theorem stateNames_codes : ∀ names ∈ [stateNamesUS, provinceNamesCA, stateNamesAU], SpeltNames names ∧
    ∀ p ∈ names, CapitalCode p.2 ∧ names.lookup (String.ofList (placeKey p.2.toList)) = none := by decide

theorem stateNames?_listed {country : String} (some : stateNames? country = some names) :
    names ∈ [stateNamesUS, provinceNamesCA, stateNamesAU] := by
  unfold stateNames? at some
  split at some <;> cases some <;> simp

theorem stateCode?_coding (country : String) : Coding (stateCode? country) := by
  cases some : stateNames? country with
  | none => 
    have unknown : ∀ name, stateCode? country name = none := fun name => by simp [stateCode?, some]
    exact ⟨by simp [unknown], by simp [unknown], by simp [unknown]⟩
  | some names =>
    obtain ⟨spelt, codes⟩ := stateNames_codes names (stateNames?_listed some)
    have lookup : ∀ name, stateCode? country name = names.lookup (String.ofList (placeKey name)) :=
      fun name => by simp [stateCode?, some]
    refine ⟨fun name code found => ?_, fun name code found other again => ?_, fun name code own found => ?_⟩ <;>
      rw [lookup] at found
    · obtain ⟨p, member, rfl⟩ := lookup_mem found
      exact (codes p member).1
    · obtain ⟨p, member, rfl⟩ := lookup_mem found
      rw [lookup, (codes p member).2] at again
      cases again
    · rw [lookup, ← placeKey_upper own (lookup_spelt spelt found)]
      exact found

namespace Transform
variable {known : List Char → Option String}

-- The code or the capitals of what is there without blanks at the ends; what is all blank stays.
def placeCode (known : List Char → Option String) (cs : List Char) : List Char :=
  if Text.trim cs = [] then cs else codeOrCapitals (known (Text.trim cs)) (Text.trim cs)

theorem isoCountry_eq (cs : List Char) : isoCountry cs = placeCode countryCode? cs := by
  unfold isoCountry placeCode
  simp only [Text.trim_eq_nil_iff]

theorem isoState_eq (options : TransformOptions) (row : Row) (cs : List Char) :
    isoState options row cs = placeCode (stateCode? (stateCountry options row)) cs := by
  unfold isoState placeCode stateCode?
  simp only [List.isEmpty_iff]

theorem trim_upper (cs : List Char) : Text.trim (upper (Text.trim cs)) = upper (Text.trim cs) := by
  rcases List.eq_nil_or_concat (Text.trim cs) with empty | ⟨front, last, final⟩
  · rw [empty]
    rfl
  · cases start : Text.trim cs with
    | nil => rfl
    | cons first more =>
      refine Text.trim_ends (upper_ends [] more (Text.trim_first start)).1 ?_
      rw [← start, final, List.concat_eq_append]
      exact (upper_ends front [] (Text.trim_last (final.trans (List.concat_eq_append ..)))).2

theorem placeCode_capitals (known : List Char → Option String) (some : Text.trim cs ≠ []) :
    placeCode known (upper (Text.trim cs)) = codeOrCapitals (known (upper (Text.trim cs))) (upper (Text.trim cs)) := by
  have shown : upper (Text.trim cs) ≠ [] := by
    cases start : Text.trim cs with
    | nil => exact absurd start some
    | cons first more => simp [upper, upperOf_ne_nil]
  unfold placeCode
  rw [trim_upper, if_neg shown]

theorem placeCode_code {name : List Char} {code : String} (coding : Coding known) (found : known name = some code) :
    placeCode known code.toList = code.toList := by
  obtain ⟨some, letters⟩ := coding.capital name code found
  have shown : ∀ c ∈ code.toList, isBlank c = false := by
    intro c member
    have := letters c member
    rw [Bool.eq_false_iff]
    intro blank
    have := isBlank_iff.mp blank
    simp only [blankCodes, List.mem_cons, List.not_mem_nil, or_false] at this
    omega
  have capitals : upper code.toList = code.toList :=
    upper_of_capitals fun c member => upperOf_ranged ⟨(65, 90), by decide, letters c member⟩
  unfold placeCode
  rw [Text.trim_visible shown, if_neg some]
  cases again : known code.toList with
  | none => exact capitals
  | some other => exact congrArg String.toList (coding.itself name code found other again)

-- Only what is known in capitals alone is not the same when it is tidied again. It is a code then.
theorem placeCode_twice (coding : Coding known) (cs : List Char) :
    placeCode known (placeCode known cs) = placeCode known cs ∨ ∃ code, known (Text.trim cs) = none ∧
      known (upper (Text.trim cs)) = some code ∧ placeCode known (placeCode known cs) = code.toList := by
  by_cases blank : Text.trim cs = []
  · have same : placeCode known cs = cs := if_pos blank
    exact .inl (by simp only [same])
  · have once : placeCode known cs = codeOrCapitals (known (Text.trim cs)) (Text.trim cs) := if_neg blank
    rw [once]
    cases found : known (Text.trim cs) with
    | some code => exact .inl (placeCode_code coding found)
    | none =>
      have twice := placeCode_capitals known blank
      cases again : known (upper (Text.trim cs)) with
      | some code =>
        rw [again] at twice
        exact .inr ⟨code, rfl, rfl, twice⟩
      | none =>
        rw [again] at twice
        exact .inl (twice.trans (upper_upper _))

theorem placeCode_again (coding : Coding known) (own : ∀ c ∈ cs, c ∉ disguised) :
    placeCode known (placeCode known cs) = placeCode known cs := by
  rcases placeCode_twice coding cs with same | ⟨code, unknown, found, _⟩
  · exact same
  · have before := coding.own _ code (fun c member => own c ((Text.trim_within cs).subset member)) found
    rw [unknown] at before
    cases before

theorem placeCode_settles (coding : Coding known) (cs : List Char) :
    placeCode known (placeCode known (placeCode known cs)) = placeCode known (placeCode known cs) := by
  rcases placeCode_twice coding cs with same | ⟨code, _, found, twice⟩
  · rw [same]
    exact same
  · rw [twice]
    exact placeCode_code coding found

end Transform
end TidyRows
