import TidyRows.Unicode.Casing
import TidyRows.Unicode.Letter
namespace TidyRows.Unicode

-- What holds of the characters of a text is tried on these, and not on all characters that there are.
instance decidableEach (p : Char → Prop) [DecidablePred p] (cs : List Char) : Decidable (∀ c ∈ cs, p c) :=
  List.decidableBAll p cs

instance decidableAny (p : Char → Prop) [DecidablePred p] (cs : List Char) : Decidable (∃ c ∈ cs, p c) :=
  List.decidableBEx p cs

theorem toNat_character {n : Nat} (valid : n.isValidChar) : (Char.ofNat n).toNat = n := by
  unfold Char.ofNat
  rw [dif_pos valid]
  rfl

namespace CaseRun
variable {r s : CaseRun} {n : Nat}

def lands (r : CaseRun) : Bool :=
  0 ≤ r.first + r.offset && (r.target r.last < 0xD800 || (0xDFFF < r.target r.first && r.target r.last < 0x110000))

def source (r : CaseRun) (n : Nat) : Nat := ((n : Int) - r.offset).toNat

-- No target is in the other run: it is before or behind it, or a step of two passes over it.
def misses (r s : CaseRun) : Bool :=
  Nat.blt (r.target r.last) s.first || Nat.blt s.last (r.target r.first) ||
    (s.step == 2 && (r.step == 2 || r.first == r.last) && (r.target r.first + s.first) % 2 == 1)

-- Neither a character of the run nor a target of one.
def Avoids (r : CaseRun) (n : Nat) : Prop :=
  (n < r.first ∨ r.last < n) ∧ (n < r.target r.first ∨ r.target r.last < n)

instance : Decidable (r.Avoids n) := inferInstanceAs (Decidable (_ ∧ _))

theorem covers_iff : r.covers n = true ↔ r.first ≤ n ∧ n ≤ r.last ∧ (n - r.first) % r.step = 0 := by
  simp [covers, and_assoc]

theorem target_between (covers : r.covers n = true) : r.target r.first ≤ r.target n ∧ r.target n ≤ r.target r.last := by
  obtain ⟨first, last, _⟩ := covers_iff.mp covers
  unfold target
  omega

theorem target_char (lands : r.lands = true) (covers : r.covers n = true) :
    (Char.ofNat (r.target n)).toNat = r.target n := by
  have between := target_between covers
  simp only [CaseRun.lands, Bool.and_eq_true, Bool.or_eq_true, decide_eq_true_eq] at lands
  have valid : (r.target n).isValidChar := by
    unfold Nat.isValidChar
    omega
  exact toNat_character valid

theorem source_target (lands : r.lands = true) (covers : r.covers n = true) : r.source (r.target n) = n := by
  obtain ⟨first, _, _⟩ := covers_iff.mp covers
  simp only [CaseRun.lands, Bool.and_eq_true, decide_eq_true_eq] at lands
  unfold source target
  omega

theorem not_covers (lands : r.lands = true) (misses : r.misses s = true) (covers : r.covers n = true) :
    s.covers (r.target n) = false := by
  obtain ⟨first, last, step⟩ := covers_iff.mp covers
  have between := target_between covers
  rw [Bool.eq_false_iff]
  intro hit
  obtain ⟨low, high, even⟩ := covers_iff.mp hit
  simp only [CaseRun.lands, Bool.and_eq_true, decide_eq_true_eq] at lands
  simp only [CaseRun.misses, Bool.or_eq_true, Bool.and_eq_true, Nat.blt_eq, beq_iff_eq] at misses
  obtain (before | behind) | ⟨⟨two, steps⟩, odd⟩ := misses
  · omega
  · omega
  · rw [two] at even
    have apart : (n - r.first) % 2 = 0 := by
      rcases steps with two | one
      · rwa [two] at step
      · omega
    unfold target at *
    omega

end CaseRun

variable {runs : List CaseRun} {c d : Char} {cs : List Char} {n : Nat}

theorem mapBy_cases (runs : List CaseRun) (c : Char) :
    (mapBy runs c = c ∧ ∀ r ∈ runs, r.covers c.toNat = false) ∨
      ∃ r ∈ runs, r.covers c.toNat = true ∧ mapBy runs c = Char.ofNat (r.target c.toNat) := by
  unfold mapBy
  split
  · rename_i r found
    have covers := List.find?_some found
    exact .inr ⟨r, List.mem_of_find?_eq_some found, covers, rfl⟩
  · rename_i none
    exact .inl ⟨rfl, fun r member => by simpa using List.find?_eq_none.mp none r member⟩

structure Settled (runs : List CaseRun) : Prop where
  lands : ∀ r ∈ runs, r.lands = true
  misses : ∀ r ∈ runs, ∀ s ∈ runs, r.misses s = true

namespace Settled

theorem uncovered (settled : Settled runs) (c : Char) : ∀ s ∈ runs, s.covers (mapBy runs c).toNat = false := by
  intro s other
  rcases mapBy_cases runs c with ⟨same, none⟩ | ⟨r, member, covers, same⟩
  · rw [same]
    exact none s other
  · have lands := settled.lands r member
    rw [same, CaseRun.target_char lands covers]
    exact CaseRun.not_covers lands (settled.misses r member s other) covers

theorem again (settled : Settled runs) (c : Char) : mapBy runs (mapBy runs c) = mapBy runs c := by
  rcases mapBy_cases runs (mapBy runs c) with ⟨same, _⟩ | ⟨r, member, covers, _⟩
  · exact same
  · exact absurd covers (by simp [settled.uncovered c r member])

theorem sources (settled : Settled runs) (c : Char) : mapBy runs c = c ∨
    ∃ r ∈ runs, r.covers (r.source (mapBy runs c).toNat) = true ∧ c.toNat = r.source (mapBy runs c).toNat := by
  rcases mapBy_cases runs c with ⟨same, _⟩ | ⟨r, member, covers, same⟩
  · exact .inl same
  · have lands := settled.lands r member
    have back := CaseRun.source_target lands covers
    rw [same, CaseRun.target_char lands covers]
    exact .inr ⟨r, member, back.symm ▸ covers, back.symm⟩

theorem avoided (settled : Settled runs) (away : ∀ r ∈ runs, r.Avoids n) (c : Char) :
    (c.toNat = n → mapBy runs c = c) ∧ ((mapBy runs c).toNat = n → mapBy runs c = c) := by
  rcases mapBy_cases runs c with ⟨same, _⟩ | ⟨r, member, covers, same⟩
  · exact ⟨fun _ => same, fun _ => same⟩
  · obtain ⟨first, last, _⟩ := CaseRun.covers_iff.mp covers
    have between := CaseRun.target_between covers
    have apart : r.Avoids n := away r member
    unfold CaseRun.Avoids at apart
    rw [same, CaseRun.target_char (settled.lands r member) covers]
    constructor <;> intro <;> omega

end Settled

theorem lowerRuns_settled : Settled lowerRuns := by
  have misses : lowerRuns.all (fun r => lowerRuns.all r.misses) = true := by decide +kernel
  simp only [List.all_eq_true] at misses
  exact ⟨by decide +kernel, misses⟩

theorem upperRuns_settled : Settled upperRuns := by
  have misses : upperRuns.all (fun r => upperRuns.all r.misses) = true := by decide +kernel
  simp only [List.all_eq_true] at misses
  exact ⟨by decide +kernel, misses⟩

def blankCodes : List Nat := [32, 9, 10, 11, 12, 13, 0x85, 0xA0, 0x1680, 0x2000, 0x2001, 0x2002, 0x2003, 0x2004, 0x2005,
  0x2006, 0x2007, 0x2008, 0x2009, 0x200A, 0x2028, 0x2029, 0x202F, 0x205F, 0x3000]

-- What comes before the letters, and blanks.
def Untouched (n : Nat) : Prop := n < 65 ∨ n ∈ blankCodes

instance : Decidable (Untouched n) := inferInstanceAs (Decidable (_ ∨ _))

theorem isBlank_iff : isBlank c = true ↔ c.toNat ∈ blankCodes := by
  simp only [isBlank, blankCodes, Bool.or_eq_true, Bool.and_eq_true, beq_iff_eq, decide_eq_true_eq, List.mem_cons,
    List.not_mem_nil, or_false]
  omega

theorem untouched_of_blank (blank : isBlank c = true) : Untouched c.toNat := .inr (isBlank_iff.mp blank)

theorem avoids_untouched (low : ∀ r ∈ runs, 65 ≤ r.first ∧ 65 ≤ r.target r.first)
    (blanks : ∀ n ∈ blankCodes, ∀ r ∈ runs, r.Avoids n) (untouched : Untouched n) : ∀ r ∈ runs, r.Avoids n := by
  intro r member
  rcases untouched with small | blank
  · obtain ⟨first, target⟩ := low r member
    exact ⟨.inl (Nat.lt_of_lt_of_le small first), .inl (Nat.lt_of_lt_of_le small target)⟩
  · exact blanks n blank r member

section lower

theorem lowerRuns_avoid (untouched : Untouched n) : ∀ r ∈ lowerRuns, r.Avoids n :=
  avoids_untouched (by decide +kernel) (by decide +kernel) untouched

theorem lowerOf_untouched (untouched : Untouched c.toNat) : lowerOf c = [c] := by
  unfold lowerOf
  split
  · rename_i dotted
    rw [dotted] at untouched
    exact absurd untouched (by decide)
  · rw [(lowerRuns_settled.avoided (lowerRuns_avoid untouched) c).1 rfl]

theorem mem_lowerOf_untouched (member : d ∈ lowerOf c) (untouched : Untouched d.toNat) : d = c := by
  unfold lowerOf at member
  split at member
  · simp only [List.mem_cons, List.not_mem_nil, or_false] at member
    rcases member with rfl | rfl <;> exact absurd untouched (by decide)
  · obtain rfl := List.mem_singleton.mp member
    exact (lowerRuns_settled.avoided (lowerRuns_avoid untouched) c).2 rfl

theorem sigma_touched (untouched : Untouched n) : n ≠ 0x3A3 := by
  rintro rfl
  exact absurd untouched (by decide)

-- A character that a text in small letters can have.
def Small (c : Char) : Prop := lowerOf c = [c] ∧ c.toNat ≠ 0x3A3

instance : Decidable (Small c) := inferInstanceAs (Decidable (_ ∧ _))

theorem lowerOf_small (member : d ∈ lowerOf c) : Small d := by
  unfold lowerOf at member
  split at member
  · simp only [List.mem_cons, List.not_mem_nil, or_false] at member
    rcases member with rfl | rfl <;> decide
  · rename_i other
    obtain rfl := List.mem_singleton.mp member
    have dotless : (mapBy lowerRuns c).toNat ≠ 0x130 := by
      intro dotted
      have same := (lowerRuns_settled.avoided (n := 0x130) (by decide +kernel) c).2 dotted
      exact other (same ▸ dotted)
    refine ⟨?_, ?_⟩
    · rw [lowerOf, if_neg dotless, lowerRuns_settled.again]
    · intro sigma
      obtain ⟨r, member, covers⟩ : ∃ r ∈ lowerRuns, r.covers 0x3A3 = true := by decide
      rw [← sigma, lowerRuns_settled.uncovered c r member] at covers
      cases covers

theorem lowerOf_blank (member : d ∈ lowerOf c) : isBlank d = isBlank c := by
  cases blank : isBlank c with
  | true =>
    rw [lowerOf_untouched (untouched_of_blank blank)] at member
    rw [List.mem_singleton.mp member, blank]
  | false =>
    rw [Bool.eq_false_iff]
    intro shown
    rw [mem_lowerOf_untouched member (untouched_of_blank shown), blank] at shown
    cases shown

theorem lowerFrom_cons (before : List Char) (c : Char) (rest : List Char) : ∃ here,
    lowerFrom before (c :: rest) = here ++ lowerFrom (c :: before) rest ∧ here ≠ [] ∧ (Untouched c.toNat → here = [c]) ∧
      ∀ d ∈ here, Small d ∧ isBlank d = isBlank c ∧ (Untouched d.toNat → d = c) := by
  refine ⟨_, rfl, ?_, fun untouched => ?_, ?_⟩
  · unfold lowerOf
    repeat' split
    all_goals simp
  · rw [if_neg (sigma_touched untouched), lowerOf_untouched untouched]
  · intro d member
    split at member
    · rename_i sigma
      have dark : isBlank c = false := by
        obtain rfl : c = Char.ofNat 0x3A3 := by rw [← sigma, Char.ofNat_toNat]
        decide
      have sigmas : ∀ n ∈ [0x3C2, 0x3C3], Small (Char.ofNat n) ∧ isBlank (Char.ofNat n) = false ∧
          ¬Untouched (Char.ofNat n).toNat := by decide
      obtain ⟨n, known, rfl⟩ : ∃ n ∈ [0x3C2, 0x3C3], d = Char.ofNat n := by
        split at member
        · exact ⟨0x3C2, by simp, List.mem_singleton.mp member⟩
        · exact ⟨0x3C3, by simp, List.mem_singleton.mp member⟩
      obtain ⟨small, shown, touched⟩ := sigmas n known
      exact ⟨small, shown.trans dark.symm, fun untouched => absurd untouched touched⟩
    · exact ⟨lowerOf_small member, lowerOf_blank member, mem_lowerOf_untouched member⟩

theorem mem_lowerFrom {before : List Char} (member : d ∈ lowerFrom before cs) :
    Small d ∧ ∃ c ∈ cs, isBlank d = isBlank c ∧ (Untouched d.toNat → d = c) := by
  induction cs generalizing before with
  | nil => cases member
  | cons c rest ih =>
    obtain ⟨here, step, _, _, each⟩ := lowerFrom_cons before c rest
    rw [step] at member
    rcases List.mem_append.mp member with now | later
    · obtain ⟨small, own⟩ := each d now
      exact ⟨small, c, List.mem_cons_self .., own⟩
    · obtain ⟨small, e, known, own⟩ := ih later
      exact ⟨small, e, List.mem_cons_of_mem _ known, own⟩

theorem lower_small (member : d ∈ lower cs) : Small d := (mem_lowerFrom member).1

theorem mem_lower_untouched (member : d ∈ lower cs) (untouched : Untouched d.toNat) : d ∈ cs := by
  obtain ⟨_, c, known, _, own⟩ := mem_lowerFrom member
  exact own untouched ▸ known

theorem lowerFrom_eq_nil_iff {before cs : List Char} : lowerFrom before cs = [] ↔ cs = [] := by
  cases cs with
  | nil => simp [lowerFrom]
  | cons c rest =>
    obtain ⟨here, step, some, _⟩ := lowerFrom_cons before c rest
    rw [step]
    exact ⟨fun empty => absurd (List.append_eq_nil_iff.mp empty).1 some, nofun⟩

theorem lower_eq_nil_iff {cs : List Char} : lower cs = [] ↔ cs = [] := lowerFrom_eq_nil_iff

theorem lowerFrom_append (before front back : List Char) : ∃ first,
    lowerFrom before (front ++ back) = first ++ lowerFrom (front.reverse ++ before) back := by
  induction front generalizing before with
  | nil => exact ⟨[], rfl⟩
  | cons c rest ih =>
    obtain ⟨here, step, _⟩ := lowerFrom_cons before c (rest ++ back)
    obtain ⟨first, more⟩ := ih (c :: before)
    exact ⟨here ++ first, by simp [step, more]⟩

-- A text that does not end in a blank does not when it is small.
theorem lower_last (front : List Char) (shown : isBlank c = false) :
    ∃ first d, lower (front ++ [c]) = first ++ [d] ∧ isBlank d = false := by
  obtain ⟨first, text⟩ := lowerFrom_append [] front [c]
  have some : lowerFrom (front.reverse ++ []) [c] ≠ [] := mt lowerFrom_eq_nil_iff.mp (List.cons_ne_nil c [])
  obtain ⟨_, e, known, blank, _⟩ := mem_lowerFrom (List.getLast_mem some)
  rw [List.mem_singleton.mp known, shown] at blank
  refine ⟨first ++ (lowerFrom (front.reverse ++ []) [c]).dropLast, _, ?_, blank⟩
  rw [List.append_assoc, List.dropLast_concat_getLast]
  exact text

-- Only the sigma depends on what is around it.
theorem lower_flatMap (other : ∀ c ∈ cs, c.toNat ≠ 0x3A3) : lower cs = cs.flatMap lowerOf := by
  unfold lower
  generalize [] = before
  induction cs generalizing before with
  | nil => rfl
  | cons c rest ih =>
    rw [lowerFrom, if_neg (other c (List.mem_cons_self ..)), List.flatMap_cons,
      ih (fun d member => other d (List.mem_cons_of_mem _ member))]

theorem mem_lower_sigma (member : c ∈ cs) (sigma : c.toNat = 0x3A3) : ∃ d ∈ lower cs, d.toNat = 0x3C2 ∨ d.toNat = 0x3C3 := by
  obtain ⟨front, back, rfl⟩ := List.append_of_mem member
  obtain ⟨first, text⟩ := lowerFrom_append [] front (c :: back)
  unfold lower
  rw [text, lowerFrom, if_pos sigma]
  split
  · exact ⟨Char.ofNat 0x3C2, by simp, .inl (by decide)⟩
  · exact ⟨Char.ofNat 0x3C3, by simp, .inr (by decide)⟩

theorem lower_of_small (small : ∀ c ∈ cs, Small c) : lower cs = cs := by
  rw [lower_flatMap fun c member => (small c member).2]
  induction cs with
  | nil => rfl
  | cons c rest ih =>
    rw [List.flatMap_cons, (small c (List.mem_cons_self ..)).1, ih fun d member => small d (List.mem_cons_of_mem _ member)]
    rfl

theorem lower_lower (cs : List Char) : lower (lower cs) = lower cs := lower_of_small fun _ => lower_small

-- A character that ends a word.
structure Mark (c : Char) : Prop where
  uncased : isCased c = false
  counts : isCaseIgnorable c = false
  untouched : Untouched c.toNat

theorem Mark.unmet (mark : Mark c) (front more : List Char) : meetsCased (front ++ c :: more) = meetsCased front := by
  unfold meetsCased
  rw [List.find?_append]
  cases front.find? fun c => !isCaseIgnorable c with
  | some d => rfl
  | none => simp [mark.counts, mark.uncased]

theorem Mark.lowerFrom_behind (mark : Mark c) (before more : List Char) (cs : List Char) :
    lowerFrom (before ++ c :: more) cs = lowerFrom before cs := by
  induction cs generalizing before with
  | nil => rfl
  | cons d rest ih => rw [lowerFrom, lowerFrom, mark.unmet, ← List.cons_append, ih]

theorem Mark.lowerFrom_append (mark : Mark c) (before front back : List Char) :
    lowerFrom before (front ++ c :: back) = lowerFrom before front ++ c :: lower back := by
  induction front generalizing before with
  | nil =>
    have other := sigma_touched mark.untouched
    have fresh : lowerFrom (c :: before) back = lower back := mark.lowerFrom_behind [] before back
    simp only [List.nil_append, lowerFrom, if_neg other, lowerOf_untouched mark.untouched, fresh]
    rfl
  | cons d rest ih => rw [List.cons_append, lowerFrom, lowerFrom, mark.unmet, ih, List.append_assoc]

theorem Mark.lower_append (mark : Mark c) (front back : List Char) :
    lower (front ++ c :: back) = lower front ++ c :: lower back := mark.lowerFrom_append [] front back

end lower

section upper

theorem upperRuns_avoid (untouched : Untouched n) : ∀ r ∈ upperRuns, r.Avoids n :=
  avoids_untouched (by decide +kernel) (by decide +kernel) untouched

theorem upperWords_touched : ∀ w ∈ upperWords, ¬Untouched w.1 ∧ ∀ n ∈ w.2, ¬Untouched (Char.ofNat n).toNat := by
  decide

-- The capital form is a word of the table, or one character that no word is made of.
theorem upperOf_cases (c : Char) : (∃ word, (c.toNat, word) ∈ upperWords ∧ upperOf c = word.map Char.ofNat) ∨
    (upperWords.lookup c.toNat = none ∧ upperOf c = [mapBy upperRuns c]) := by
  unfold upperOf
  split
  · rename_i word found
    obtain ⟨front, back, same, _⟩ := List.lookup_eq_some_iff.mp found
    exact .inl ⟨word, by simp [same], rfl⟩
  · rename_i none
    exact .inr ⟨none, rfl⟩

theorem upperOf_ne_nil (c : Char) : upperOf c ≠ [] := by
  have some : ∀ w ∈ upperWords, w.2 ≠ [] := by decide
  rcases upperOf_cases c with ⟨word, known, same⟩ | ⟨_, same⟩ <;> rw [same]
  · exact mt List.map_eq_nil_iff.mp (some _ known)
  · exact List.cons_ne_nil _ _

theorem upperOf_untouched (untouched : Untouched c.toNat) : upperOf c = [c] := by
  rcases upperOf_cases c with ⟨word, known, _⟩ | ⟨_, single⟩
  · exact absurd untouched (upperWords_touched _ known).1
  · rw [single, (upperRuns_settled.avoided (upperRuns_avoid untouched) c).1 rfl]

theorem mem_upperOf_untouched (member : d ∈ upperOf c) (untouched : Untouched d.toNat) : d = c := by
  rcases upperOf_cases c with ⟨word, known, same⟩ | ⟨_, same⟩ <;> rw [same] at member
  · obtain ⟨n, listed, rfl⟩ := List.mem_map.mp member
    exact absurd untouched ((upperWords_touched _ known).2 n listed)
  · obtain rfl := List.mem_singleton.mp member
    exact (upperRuns_settled.avoided (upperRuns_avoid untouched) c).2 rfl

-- The capitals that words are made of lie in these ranges, and nothing in them has another capital.
def capitalRanges : List (Nat × Nat) := [(65, 90), (700, 702), (768, 834), (902, 911), (913, 937), (1333, 1362), (7944, 7951),
  (7976, 7983), (8040, 8047), (8122, 8122), (8138, 8138), (8186, 8186)]

theorem upperWords_capital : ∀ w ∈ upperWords, ∀ n ∈ w.2, ∃ z ∈ capitalRanges, z.1 ≤ n ∧ n ≤ z.2 := by decide

theorem capitalRanges_settled : ∀ z ∈ capitalRanges, z.2 < 0xD800 ∧ (∀ r ∈ upperRuns, r.last < z.1 ∨ z.2 < r.first) ∧
    ∀ w ∈ upperWords, w.1 < z.1 ∨ z.2 < w.1 := by decide +kernel

theorem upperOf_uncovered (unlisted : ∀ w ∈ upperWords, w.1 ≠ c.toNat)
    (uncovered : ∀ r ∈ upperRuns, r.covers c.toNat = false) : upperOf c = [c] := by
  rcases upperOf_cases c with ⟨word, known, _⟩ | ⟨_, single⟩
  · exact absurd rfl (unlisted _ known)
  · rcases mapBy_cases upperRuns c with ⟨same, _⟩ | ⟨r, member, covers, _⟩
    · rw [single, same]
    · rw [uncovered r member] at covers
      cases covers

theorem upperOf_ranged (range : ∃ z ∈ capitalRanges, z.1 ≤ c.toNat ∧ c.toNat ≤ z.2) : upperOf c = [c] := by
  obtain ⟨z, member, low, high⟩ := range
  obtain ⟨_, runs, words⟩ := capitalRanges_settled z member
  refine upperOf_uncovered (fun w listed same => ?_) (fun r member => Bool.eq_false_iff.mpr fun covers => ?_)
  · have := words w listed
    omega
  · have := runs r member
    obtain ⟨first, last, _⟩ := CaseRun.covers_iff.mp covers
    omega

theorem upperOf_upperOf (member : d ∈ upperOf c) : upperOf d = [d] := by
  rcases upperOf_cases c with ⟨word, known, same⟩ | ⟨unlisted, same⟩ <;> rw [same] at member
  · obtain ⟨n, listed, rfl⟩ := List.mem_map.mp member
    obtain ⟨z, range, low, high⟩ := upperWords_capital _ known n listed
    have valid : n.isValidChar := .inl (Nat.lt_of_le_of_lt high (capitalRanges_settled z range).1)
    have code := toNat_character valid
    exact upperOf_ranged ⟨z, range, by omega, by omega⟩
  · obtain rfl := List.mem_singleton.mp member
    refine upperOf_uncovered (fun w listed code => ?_) (upperRuns_settled.uncovered c)
    rcases mapBy_cases upperRuns c with ⟨still, _⟩ | ⟨r, member, covers, moved⟩
    · rw [still] at code
      have other := List.lookup_eq_none_iff.mp unlisted w listed
      simp [code] at other
    · have apart : upperRuns.all (fun r => upperWords.all fun w => Nat.blt w.1 (r.target r.first) ||
          Nat.blt (r.target r.last) w.1) = true := by decide +kernel
      simp only [List.all_eq_true, Bool.or_eq_true, Nat.blt_eq] at apart
      have ends := apart r member w listed
      have between := CaseRun.target_between covers
      rw [moved, CaseRun.target_char (upperRuns_settled.lands r member) covers] at code
      omega

theorem upperOf_blank (member : d ∈ upperOf c) : isBlank d = isBlank c := by
  cases blank : isBlank c with
  | true =>
    rw [upperOf_untouched (untouched_of_blank blank)] at member
    rw [List.mem_singleton.mp member, blank]
  | false =>
    rw [Bool.eq_false_iff]
    intro shown
    rw [mem_upperOf_untouched member (untouched_of_blank shown), blank] at shown
    cases shown

-- Capitals of a text without blanks at its ends have none there.
theorem upper_ends (front cs : List Char) (shown : isBlank c = false) :
    (∃ d more, upper (c :: cs) = d :: more ∧ isBlank d = false) ∧
      ∃ first d, upper (front ++ [c]) = first ++ [d] ∧ isBlank d = false := by
  have visible : ∀ d ∈ upperOf c, isBlank d = false := fun d member => (upperOf_blank member).trans shown
  constructor
  · obtain ⟨d, more, same⟩ := List.exists_cons_of_ne_nil (upperOf_ne_nil c)
    rw [same] at visible
    exact ⟨d, more ++ upper cs, by simp [upper, same], visible d (List.mem_cons_self ..)⟩
  · obtain ⟨first, d, same⟩ := List.eq_nil_or_concat (upperOf c) |>.resolve_left (upperOf_ne_nil c)
    rw [same] at visible
    exact ⟨upper front ++ first, d, by simp [upper, same], visible d (by simp)⟩

theorem upper_of_capitals (capital : ∀ c ∈ cs, upperOf c = [c]) : upper cs = cs := by
  unfold upper
  induction cs with
  | nil => rfl
  | cons c rest ih =>
    rw [List.flatMap_cons, capital c (List.mem_cons_self ..), ih fun d member => capital d (List.mem_cons_of_mem _ member)]
    rfl

theorem upper_capital (member : d ∈ upper cs) : upperOf d = [d] := by
  obtain ⟨c, _, mapped⟩ := List.mem_flatMap.mp member
  exact upperOf_upperOf mapped

theorem upper_upper (cs : List Char) : upper (upper cs) = upper cs := upper_of_capitals fun _ => upper_capital

end upper

end TidyRows.Unicode
