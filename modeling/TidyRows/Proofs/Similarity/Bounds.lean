import TidyRows.Proofs.Similarity.Edits
import TidyRows.Proofs.Similarity.Jaro
namespace TidyRows
namespace Similarity

def markedChars (marks : List (Char × Bool)) : List Char := (marks.filter (·.2)).map (·.1)

@[simp] theorem markedChars_nil : markedChars [] = [] := rfl

@[simp] theorem markedChars_marked (c : Char) (marks : List (Char × Bool)) :
    markedChars ((c, true) :: marks) = c :: markedChars marks := rfl

@[simp] theorem markedChars_free (c : Char) (marks : List (Char × Bool)) :
    markedChars ((c, false) :: marks) = markedChars marks := rfl

theorem markedChars_length (marks : List (Char × Bool)) : (markedChars marks).length = marks.countP (·.2) := by
  rw [markedChars, List.length_map, List.countP_eq_length_filter]

-- The scan with the marks that it leaves on both texts.
def marksFrom (window : Nat) : Nat → List Char → List (Char × Bool) → List (Char × Bool) × List (Char × Bool)
  | _, [], marked => ([], marked)
  | i, c :: rest, marked =>
    match markFirst c (i - window) (i + window + 1) 0 marked with
    | some marked =>
      let (own, marked) := marksFrom window (i + 1) rest marked
      ((c, true) :: own, marked)
    | none =>
      let (own, marked) := marksFrom window (i + 1) rest marked
      ((c, false) :: own, marked)

def marks (a b : List Char) : List (Char × Bool) × List (Char × Bool) :=
  marksFrom (matchWindow a b) 0 a (b.map (·, false))

-- The marked characters of the first text in turn, each held against that at the next mark of the second text. The
-- cursor in the second text is what is left of it; nothing comes of a scan that runs past its end.
def outOfOrder? : List (Char × Bool) → List (Char × Bool) → Option Nat
  | [], _ => some 0
  | (_, false) :: rest, other => outOfOrder? rest other
  | (c, true) :: rest, other =>
    match other.dropWhile (fun mark => !mark.2) with
    | [] => none
    | (d, _) :: later => (outOfOrder? rest later).map (· + if c = d then 0 else 1)

theorem matchFrom_marks (window n : Nat) (rest : List Char) (marked : List (Char × Bool)) :
    matchFrom window n rest marked =
      (markedChars (marksFrom window n rest marked).1, (marksFrom window n rest marked).2) := by
  induction rest generalizing n marked with
  | nil => rfl
  | cons c rest ih =>
    cases marking : markFirst c (n - window) (n + window + 1) 0 marked with
    | none => simp [matchFrom, marksFrom, marking, ih]
    | some next => simp [matchFrom, marksFrom, marking, ih]

theorem matching_marks (a b : List Char) : matching a b = (markedChars (marks a b).1, markedChars (marks a b).2) := by
  simp only [matching, matchFrom_marks, marks, markedChars]

theorem markFirst_chars (found : markFirst c start stop j marked = some after) :
    after.map (·.1) = marked.map (·.1) := by
  obtain ⟨k, _, _, free, rfl, _⟩ := markFirst_some found
  have here : (marked.map (·.1))[k]? = some c := by simp [free]
  obtain ⟨inside, same⟩ := List.getElem?_eq_some_iff.mp here
  rw [List.map_set]
  nth_rewrite 2 [← List.set_getElem_self inside]
  rw [same]

theorem marksFrom_chars (window n : Nat) (rest : List Char) (marked : List (Char × Bool)) :
    (marksFrom window n rest marked).1.map (·.1) = rest ∧
      (marksFrom window n rest marked).2.map (·.1) = marked.map (·.1) := by
  induction rest generalizing n marked with
  | nil => exact ⟨rfl, rfl⟩
  | cons c rest ih =>
    cases marking : markFirst c (n - window) (n + window + 1) 0 marked with
    | none =>
      obtain ⟨own, other⟩ := ih (n + 1) marked
      simp [marksFrom, marking, own, other]
    | some next =>
      obtain ⟨own, other⟩ := ih (n + 1) next
      simp [marksFrom, marking, own, other, markFirst_chars marking]

theorem marks_chars (a b : List Char) : (marks a b).1.map (·.1) = a ∧ (marks a b).2.map (·.1) = b := by
  obtain ⟨own, other⟩ := marksFrom_chars (matchWindow a b) 0 a (b.map (·, false))
  refine ⟨own, other.trans ?_⟩
  simp [Function.comp_def]

theorem marks_count (a b : List Char) : (marks a b).1.countP (·.2) = (marks a b).2.countP (·.2) := by
  have length := matching_length a b
  rw [matching_marks] at length
  rw [← markedChars_length, ← markedChars_length, length]

-- What the cursor leaves behind is not marked.
theorem dropWhile_marks (other : List (Char × Bool)) :
    (markedChars other = [] ∧ other.dropWhile (fun mark => !mark.2) = []) ∨
    ∃ d later, other.dropWhile (fun mark => !mark.2) = (d, true) :: later ∧
      markedChars other = d :: markedChars later := by
  induction other with
  | nil => exact .inl ⟨rfl, rfl⟩
  | cons mark other ih =>
    obtain ⟨d, flag⟩ := mark
    cases flag with
    | true => exact .inr ⟨d, other, by simp, by simp⟩
    | false => simpa using ih

theorem transpositions_cons (c d : Char) (found other : List Char) :
    transpositions (c :: found) (d :: other) = transpositions found other + if c = d then 0 else 1 := by
  by_cases same : c = d
  · simp [transpositions, same]
  · simp [transpositions, same]

-- As many marks are in the second text as the first has: the cursor always finds one.
theorem outOfOrder?_eq (own other : List (Char × Bool)) (enough : own.countP (·.2) ≤ other.countP (·.2)) :
    outOfOrder? own other = some (transpositions (markedChars own) (markedChars other)) := by
  induction own generalizing other with
  | nil => simp [outOfOrder?, transpositions]
  | cons mark own ih =>
    obtain ⟨c, flag⟩ := mark
    cases flag with
    | false =>
      rw [outOfOrder?, markedChars_free]
      exact ih other (by simpa using enough)
    | true =>
      have more : own.countP (·.2) + 1 ≤ other.countP (·.2) := by simpa using enough
      rw [← markedChars_length other] at more
      rcases dropWhile_marks other with ⟨none, _⟩ | ⟨d, later, found, chars⟩
      · simp [none] at more
      · rw [chars, List.length_cons, markedChars_length] at more
        have rest := ih later (by omega)
        simp [outOfOrder?, found, chars, rest, transpositions_cons]

theorem transpositions_le (found other : List Char) : transpositions found other ≤ found.length := by
  apply Nat.le_trans List.countP_le_length
  rw [List.length_zip]
  exact Nat.min_le_left _ _

theorem markedChars_sublist (marks : List (Char × Bool)) : (markedChars marks).Sublist (marks.map (·.1)) :=
  List.filter_sublist.map _

theorem matching_sublists (a b : List Char) : (matching a b).1.Sublist a ∧ (matching a b).2.Sublist b := by
  obtain ⟨own, other⟩ := marks_chars a b
  have first := markedChars_sublist (marks a b).1
  have second := markedChars_sublist (marks a b).2
  rw [own] at first
  rw [other] at second
  rw [matching_marks]
  exact ⟨first, second⟩

theorem matching_le (a b : List Char) : (matching a b).1.length ≤ a.length ∧ (matching a b).1.length ≤ b.length := by
  obtain ⟨first, second⟩ := matching_sublists a b
  have length := second.length_le
  rw [matching_length] at length
  exact ⟨first.length_le, length⟩

theorem Chosen.whole {chosen : Nat → Prop} {text : List Char} (all : ∀ k < text.length, chosen (i + k)) :
    Chosen chosen i text text := by
  induction text generalizing i with
  | nil => exact .nil
  | cons c rest ih =>
    refine .take (all 0 (by simp)) (ih fun k less => ?_)
    have next := all (k + 1) (by simpa using less)
    rwa [← Nat.add_assoc, Nat.add_right_comm] at next

-- Each place of a text finds itself: no earlier one is left for it.
theorem matching_self (a : List Char) : matching a a = (a, a) := by
  obtain ⟨paired, pairing, found, other⟩ := matching_pairs a a
  have own : Pairing (Fits (matchWindow a a) a a) fun i j => i = j ∧ i < a.length := by
    refine ⟨?_, ?_, ?_, ?_⟩
    · rintro i _ ⟨rfl, inside⟩
      exact ⟨⟨a[i], by simp [inside], by simp [inside]⟩, by omega, by omega⟩
    · rintro i j k ⟨rfl, _⟩ ⟨same, _⟩
      exact same
    · rintro i j k ⟨rfl, _⟩ ⟨same, _⟩
      exact same.symm
    · rintro i j ⟨⟨c, first, second⟩, _⟩
      have inside := (List.getElem?_eq_some_iff.mp first).1
      have there := (List.getElem?_eq_some_iff.mp second).1
      rcases Nat.lt_trichotomy i j with less | same | more
      · exact .inr (.inl ⟨i, less, rfl, inside⟩)
      · exact .inl ⟨same, inside⟩
      · exact .inr (.inr ⟨j, more, rfl, there⟩)
  cases pairing.unique own
  have first : Chosen (fun i => ∃ j, i = j ∧ i < a.length) 0 a a :=
    Chosen.whole fun k less => ⟨0 + k, rfl, by simpa using less⟩
  have second : Chosen (fun j => ∃ i, i = j ∧ i < a.length) 0 a a :=
    Chosen.whole fun k less => ⟨0 + k, rfl, by simpa using less⟩
  exact Prod.ext (found.unique first) (other.unique second)

theorem transpositions_self (text : List Char) : transpositions text text = 0 := by
  induction text with
  | nil => rfl
  | cons c text ih => simp [transpositions_cons, ih]

theorem eq_of_transpositions {found other : List Char} (length : other.length = found.length)
    (none : transpositions found other = 0) : found = other := by
  induction found generalizing other with
  | nil => exact (List.eq_nil_of_length_eq_zero length).symm
  | cons c found ih =>
    obtain ⟨d, other, rfl⟩ := List.exists_cons_of_length_eq_add_one length
    rw [transpositions_cons] at none
    split at none
    · rename_i same
      rw [same, ih (by simpa using length) (by omega)]
    · omega

-- Everything is found, in order, in an equal text only.
theorem matching_whole_iff (a b : List Char) :
    ((matching a b).1.length = a.length ∧ (matching a b).1.length = b.length ∧
      transpositions (matching a b).1 (matching a b).2 = 0) ↔ a = b := by
  constructor
  · rintro ⟨first, second, none⟩
    obtain ⟨own, other⟩ := matching_sublists a b
    have length := matching_length a b
    have same := eq_of_transpositions length none
    calc
      a = (matching a b).1 := (own.eq_of_length first).symm
      _ = (matching a b).2 := same
      _ = b := other.eq_of_length (length.trans second)
  · rintro rfl
    rw [matching_self]
    exact ⟨rfl, rfl, transpositions_self a⟩

-- The scores by any arithmetic that knows the whole numbers.
def jaroIn {R : Type} [Add R] [Sub R] [Div R] (number : Nat → R) (a b : List Char) : R :=
  if a.isEmpty && b.isEmpty then number 1
  else
    let (found, other) := matching a b
    if found.isEmpty then number 0
    else
      let m := number found.length
      let t := number (transpositions found other)
      (m / number a.length + m / number b.length + (m - t / number 2) / m) / number 3

def jaroWinklerIn {R : Type} [Add R] [Sub R] [Mul R] [Div R] (number : Nat → R) (least : R → R → R)
    (a b : List Char) : R :=
  let base := jaroIn number a b
  least (base + number 1 / number 10 * number (commonLead a b) * (number 1 - base)) (number 1)

theorem jaro_eq (a b : List Char) : jaro a b = jaroIn Double.ofNat a b := by
  have zero : Double.ofNat 0 = .zero := rfl
  have one : Double.ofNat 1 = .one := by decide +kernel
  rw [jaro, jaroIn, zero, one]

theorem jaroWinklerScore_eq (a b : List Char) :
    jaroWinklerScore a b = jaroWinklerIn Double.ofNat Double.minNumber a b := by
  have one : Double.ofNat 1 = .one := by decide +kernel
  have tenth : Double.ofNat 1 / Double.ofNat 10 = leadScale := by decide +kernel
  rw [jaroWinklerScore, jaroWinklerIn, tenth, one, jaro_eq]

theorem part_whole_iff {n whole : Nat} (some : whole ≠ 0) : rational n / rational whole = 1 ↔ n = whole := by
  have divisor : rational whole ≠ 0 := Nat.cast_ne_zero.mpr some
  rw [div_eq_one_iff_eq divisor]
  exact Nat.cast_inj

theorem placed_part {t m : Nat} (within : t ≤ m) (some : m ≠ 0) :
    0 ≤ (rational m - rational t / rational 2) / rational m ∧ (rational m - rational t / rational 2) / rational m ≤ 1 ∧
      ((rational m - rational t / rational 2) / rational m = 1 ↔ t = 0) := by
  obtain ⟨above, below⟩ := part_bounds within
  have divisor : rational m ≠ 0 := Nat.cast_ne_zero.mpr some
  have two : rational 2 = 2 := Nat.cast_ofNat
  have part : (rational m - rational t / rational 2) / rational m = 1 - rational t / rational m / 2 := by
    rw [two]
    field_simp
  rw [part]
  refine ⟨by linarith, by linarith, ?_⟩
  calc
    _ ↔ rational t / rational m / 2 = 0 := sub_eq_self
    _ ↔ rational t / rational m = 0 := by rw [div_eq_zero_iff, or_iff_left two_ne_zero]
    _ ↔ rational t = 0 := by rw [div_eq_zero_iff, or_iff_left divisor]
    _ ↔ t = 0 := Nat.cast_eq_zero

theorem jaro_exact (a b : List Char) :
    0 ≤ jaroIn rational a b ∧ jaroIn rational a b ≤ 1 ∧ (jaroIn rational a b = 1 ↔ a = b) := by
  have zero : rational 0 = 0 := Nat.cast_zero
  have three : rational 3 = 3 := Nat.cast_ofNat
  simp only [jaroIn, rational_one, zero, three]
  split
  · rename_i empty
    simp only [Bool.and_eq_true, List.isEmpty_iff] at empty
    obtain ⟨rfl, rfl⟩ := empty
    simp
  · rename_i some
    split
    · rename_i none
      refine ⟨le_refl 0, zero_le_one, ?_⟩
      have differ : a ≠ b := by
        rintro rfl
        rw [matching_self] at none
        simp [none] at some
      simp [differ]
    · rename_i matched
      obtain ⟨first, second⟩ := matching_le a b
      have positive : (matching a b).1.length ≠ 0 := by simpa using matched
      obtain ⟨low, high⟩ := part_bounds first
      obtain ⟨low', high'⟩ := part_bounds second
      obtain ⟨placed, atMost, whole⟩ := placed_part (transpositions_le (matching a b).1 (matching a b).2) positive
      refine ⟨by linarith, by linarith, ?_⟩
      have own : a.length ≠ 0 := by omega
      have other : b.length ≠ 0 := by omega
      rw [← matching_whole_iff, ← whole, ← part_whole_iff own, ← part_whole_iff other]
      constructor
      · intro sum
        exact ⟨by linarith, by linarith, by linarith⟩
      · rintro ⟨one, two, three⟩
        rw [one, two, three]
        norm_num

-- An equal lead never lowers the score.
theorem jaroWinkler_exact (a b : List Char) :
    jaroIn rational a b ≤ jaroWinklerIn rational min a b ∧ jaroWinklerIn rational min a b ≤ 1 := by
  obtain ⟨_, below, _⟩ := jaro_exact a b
  have ten : rational 10 = 10 := Nat.cast_ofNat
  have more : 0 ≤ rational (commonLead a b) := Nat.cast_nonneg _
  have missing : 0 ≤ 1 - jaroIn rational a b := by linarith
  have added : 0 ≤ 1 / 10 * rational (commonLead a b) * (1 - jaroIn rational a b) := by positivity
  simp only [jaroWinklerIn, rational_one, ten]
  exact ⟨le_min (by linarith) below, min_le_right _ _⟩

-- The scan for the next mark never runs past the end of the second text, and what it counts keeps the scores between
-- zero and one.
theorem jaro_bounded (a b : List Char) :
    (marks a b).1.map (·.1) = a ∧ (marks a b).2.map (·.1) = b ∧
    matching a b = (markedChars (marks a b).1, markedChars (marks a b).2) ∧
    (marks a b).1.countP (·.2) = (marks a b).2.countP (·.2) ∧
    outOfOrder? (marks a b).1 (marks a b).2 = some (transpositions (matching a b).1 (matching a b).2) ∧
    transpositions (matching a b).1 (matching a b).2 ≤ (matching a b).1.length ∧
    (matching a b).1.length ≤ min a.length b.length ∧
    jaro a b = jaroIn Double.ofNat a b ∧
    score .jaroWinkler a b = jaroWinklerIn Double.ofNat Double.minNumber a b ∧
    0 ≤ jaroIn rational a b ∧ jaroIn rational a b ≤ jaroWinklerIn rational min a b ∧
    jaroWinklerIn rational min a b ≤ 1 ∧
    (jaroIn rational a b = 1 ↔ a = b) := by
  obtain ⟨own, other⟩ := marks_chars a b
  obtain ⟨first, second⟩ := matching_le a b
  obtain ⟨above, _, whole⟩ := jaro_exact a b
  obtain ⟨raised, below⟩ := jaroWinkler_exact a b
  have scanned : outOfOrder? (marks a b).1 (marks a b).2 = some (transpositions (matching a b).1 (matching a b).2) := by
    rw [matching_marks]
    exact outOfOrder?_eq _ _ (marks_count a b).le
  exact ⟨own, other, matching_marks a b, marks_count a b, scanned, transpositions_le _ _,
    Nat.le_min.mpr ⟨first, second⟩, jaro_eq a b, jaroWinklerScore_eq a b, above, raised, below, whole⟩

end Similarity
end TidyRows
