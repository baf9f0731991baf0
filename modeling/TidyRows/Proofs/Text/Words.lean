import Mathlib.Data.List.Infix
import TidyRows.Text.Words
namespace TidyRows.Text
open Unicode (isBlank)

section
variable {separates : Char → Bool} {c d : Char} {cs word rest : List Char} {ws : List (List Char)}

theorem wordsBy_gap (gap : separates c = true) (rest : List Char) : wordsBy separates (c :: rest) = wordsBy separates rest := by
  rw [wordsBy.eq_def]
  simp [gap]

theorem wordsBy_end (shown : separates c = false) (ends : ∀ d more, rest = d :: more → separates d = true) :
    wordsBy separates (c :: rest) = [c] :: wordsBy separates rest := by
  rw [wordsBy.eq_def]
  simp only [shown, Bool.false_eq_true, if_false]
  split
  · rename_i d more word others words
    rw [if_pos (ends d more rfl), words]
  · rfl

theorem wordsBy_more (shown : separates c = false) (next : separates d = false)
    (words : wordsBy separates (d :: rest) = word :: ws) : wordsBy separates (c :: d :: rest) = (c :: word) :: ws := by
  rw [wordsBy.eq_def]
  simp [shown, next, words]

-- A character that is no separator is a word of its own or the first of the next word.
theorem wordsBy_cons (shown : separates c = false) (rest : List Char) :
    wordsBy separates (c :: rest) = [c] :: wordsBy separates rest ∨
      ∃ word ws, wordsBy separates rest = word :: ws ∧ wordsBy separates (c :: rest) = (c :: word) :: ws := by
  cases rest with
  | nil => exact .inl (wordsBy_end shown nofun)
  | cons d more =>
    cases next : separates d with
    | true => exact .inl (wordsBy_end shown fun e others start => (List.cons.inj start).1 ▸ next)
    | false =>
      cases words : wordsBy separates (d :: more) with
      | nil => exact .inl (by simp [wordsBy.eq_def separates (c :: d :: more), shown, words])
      | cons word ws => exact .inr ⟨word, ws, rfl, wordsBy_more shown next words⟩

theorem wordsBy_first (shown : separates c = false) (rest : List Char) :
    ∃ word ws, wordsBy separates (c :: rest) = word :: ws := by
  rcases wordsBy_cons shown rest with alone | ⟨word, ws, _, longer⟩
  · exact ⟨_, _, alone⟩
  · exact ⟨_, _, longer⟩

theorem wordsBy_flatten (separates : Char → Bool) (cs : List Char) :
    (wordsBy separates cs).flatten = cs.filter fun c => !separates c := by
  induction cs with
  | nil => rfl
  | cons c rest ih =>
    cases gap : separates c with
    | true => rw [wordsBy_gap gap, ih, List.filter_cons_of_neg (by simp [gap])]
    | false =>
      rw [List.filter_cons_of_pos (by simp [gap]), ← ih]
      rcases wordsBy_cons gap rest with alone | ⟨word, ws, words, longer⟩
      · rw [alone, List.flatten_cons, List.singleton_append]
      · rw [longer, words, List.flatten_cons, List.flatten_cons, List.cons_append]

theorem wordsBy_shown (member : word ∈ wordsBy separates cs) : word ≠ [] ∧ ∀ c ∈ word, separates c = false := by
  induction cs generalizing word with
  | nil => cases member
  | cons c rest ih =>
    cases gap : separates c with
    | true =>
      rw [wordsBy_gap gap] at member
      exact ih member
    | false =>
      rcases wordsBy_cons gap rest with alone | ⟨next, ws, words, longer⟩
      · rw [alone] at member
        rcases List.mem_cons.mp member with rfl | later
        · simpa using gap
        · exact ih later
      · rw [longer] at member
        rw [words] at ih
        rcases List.mem_cons.mp member with rfl | later
        · obtain ⟨_, shown⟩ := ih (List.mem_cons_self ..)
          exact ⟨List.cons_ne_nil c next, List.forall_mem_cons.mpr ⟨gap, shown⟩⟩
        · exact ih (List.mem_cons_of_mem _ later)

theorem wordsBy_append (rest : List Char) (some : word ≠ []) (shown : ∀ c ∈ word, separates c = false)
    (ends : ∀ d more, rest = d :: more → separates d = true) :
    wordsBy separates (word ++ rest) = word :: wordsBy separates rest := by
  induction word with
  | nil => exact absurd rfl some
  | cons c word ih =>
    have here := shown c (List.mem_cons_self ..)
    cases word with
    | nil => exact wordsBy_end here ends
    | cons d word =>
      have later := ih (List.cons_ne_nil d word) fun e known => shown e (List.mem_cons_of_mem _ known)
      exact wordsBy_more here (shown d (by simp)) later

end

variable {cs : List Char} {ws : List (List Char)}

theorem words_flatten (cs : List Char) : (words cs).flatten = cs.filter fun c => !isBlank c := wordsBy_flatten isBlank cs

theorem words_shown : ∀ word ∈ words cs, word ≠ [] ∧ ∀ c ∈ word, isBlank c = false := fun _ => wordsBy_shown

theorem joinWith_cons (separator w v : List Char) (rest : List (List Char)) :
    joinWith separator (w :: v :: rest) = w ++ separator ++ joinWith separator (v :: rest) := rfl

theorem mem_joinWith_flatten (separator : List Char) {c : Char} (member : c ∈ ws.flatten) : c ∈ joinWith separator ws := by
  induction ws with
  | nil => cases member
  | cons word others ih =>
    cases others with
    | nil => simpa [joinWith] using member
    | cons next rest =>
      rw [joinWith_cons, List.mem_append, List.mem_append]
      rw [List.flatten_cons, List.mem_append] at member
      exact member.imp .inl ih

theorem mem_joinWith {separator : List Char} {c : Char} (member : c ∈ joinWith separator ws) :
    c ∈ separator ∨ c ∈ ws.flatten := by
  induction ws with
  | nil => cases member
  | cons word others ih =>
    rw [List.flatten_cons, List.mem_append]
    cases others with
    | nil => exact .inr (.inl member)
    | cons next rest =>
      rw [joinWith_cons, List.mem_append, List.mem_append] at member
      rcases member with (first | between) | later
      · exact .inr (.inl first)
      · exact .inl between
      · exact (ih later).imp id .inr

theorem filter_joinWith {counts : Char → Bool} {separator : List Char} (other : ∀ c ∈ separator, counts c = false)
    (ws : List (List Char)) : (joinWith separator ws).filter counts = ws.flatten.filter counts := by
  have none : separator.filter counts = [] := List.filter_eq_nil_iff.mpr fun c member => by simp [other c member]
  induction ws with
  | nil => rfl
  | cons word others ih =>
    cases others with
    | nil => simp [joinWith]
    | cons next rest =>
      rw [joinWith_cons, List.filter_append, List.filter_append, none, List.append_nil, ih, ← List.filter_append]
      rfl

theorem joinWith_eq (separator : List Char) (ws : List (List Char)) : joinWith separator ws = separator.intercalate ws := by
  induction ws with
  | nil => rfl
  | cons word others ih =>
    cases others with
    | nil => rw [List.intercalate_singleton, joinWith]
    | cons next rest => rw [joinWith_cons, ih, List.intercalate_cons_cons]

theorem wordsBy_joinWith {separates : Char → Bool} (gap : separates ' ' = true)
    (shown : ∀ word ∈ ws, word ≠ [] ∧ ∀ c ∈ word, separates c = false) : wordsBy separates (joinWith [' '] ws) = ws := by
  induction ws with
  | nil => rfl
  | cons word others ih =>
    obtain ⟨some, visible⟩ := shown word (List.mem_cons_self ..)
    cases others with
    | nil =>
      have whole := wordsBy_append [] some visible nofun
      rwa [List.append_nil] at whole
    | cons next rest =>
      have later := ih fun word known => shown word (List.mem_cons_of_mem _ known)
      have ends : ∀ d more, [' '] ++ joinWith [' '] (next :: rest) = d :: more → separates d = true := by
        intro d more start
        rw [← (List.cons.inj start).1]
        exact gap
      rw [joinWith_cons, List.append_assoc, wordsBy_append _ some visible ends, List.singleton_append, wordsBy_gap gap, later]

theorem words_joinWith (shown : ∀ word ∈ ws, word ≠ [] ∧ ∀ c ∈ word, isBlank c = false) : words (joinWith [' '] ws) = ws :=
  wordsBy_joinWith (by decide) shown

section
variable {counts : Char → Bool} {separator back gap : List Char} {words : List (List Char)}

theorem intercalate_cons_head (separator : List Char) (c : Char) (word : List Char) (others : List (List Char)) :
    separator.intercalate ((c :: word) :: others) = c :: separator.intercalate (word :: others) := by
  cases others with
  | nil => simp
  | cons second others => rw [List.intercalate_cons_cons, List.intercalate_cons_cons]; rfl

theorem infix_around {a b word cs : List Char} (some : word ≠ []) (apart : ∀ c ∈ cs, c ∉ word)
    (inside : cs <:+: a ++ (word ++ b)) : cs <:+: a ∨ cs <:+: b := by
  have empty {part : List Char} (own : part ⊆ cs) (shared : part ⊆ word) : part = [] :=
    List.eq_nil_iff_forall_not_mem.mpr fun c member => apart c (own member) (shared member)
  rcases List.infix_append_iff.mp inside with left | right | ⟨front, back, rfl, left, right⟩
  · exact .inl left
  · rcases List.infix_append_iff.mp right with within | behind | ⟨front, back, rfl, within, behind⟩
    · rw [empty (List.Subset.refl _) within.subset]
      exact .inl List.nil_infix
    · exact .inr behind
    · rw [empty (List.subset_append_left ..) within.subset]
      exact .inr behind.isInfix
  · obtain ⟨c, more, rfl⟩ := List.exists_cons_of_ne_nil some
    cases back with
    | nil => exact .inl (by simpa using left.isInfix)
    | cons d later =>
      rw [List.cons_append, List.cons_prefix_cons] at right
      exact absurd (List.mem_cons_self ..) (right.1 ▸ apart d (by simp))

-- Between words no gap is longer than a separator.
theorem gap_le (letters : ∀ word ∈ words, word ≠ [] ∧ ∀ c ∈ word, counts c = true)
    (ends : words = [] → back = []) (short : back.length ≤ separator.length) (other : ∀ c ∈ gap, counts c = false)
    {front : List Char} (start : front.length ≤ separator.length)
    (inside : gap <:+: front ++ (separator.intercalate words ++ back)) : gap.length ≤ separator.length := by
  induction words generalizing front with
  | nil =>
    rw [ends rfl, List.intercalate_nil, List.append_nil, List.append_nil] at inside
    exact inside.length_le.trans start
  | cons word others ih =>
    obtain ⟨some, own⟩ := letters word (List.mem_cons_self ..)
    have apart : ∀ c ∈ gap, c ∉ word := fun c member shared => by cases (own c shared).symm.trans (other c member)
    cases others with
    | nil =>
      rw [List.intercalate_singleton] at inside
      exact (infix_around some apart inside).elim (fun left => left.length_le.trans start)
        (fun right => right.length_le.trans short)
    | cons next others =>
      rw [List.intercalate_cons_cons, List.append_assoc, List.append_assoc] at inside
      rcases infix_around some apart inside with left | right
      · exact left.length_le.trans start
      · exact ih (fun word member => letters word (List.mem_cons_of_mem _ member)) nofun (Nat.le_refl _) right

theorem intercalate_first (separator : List Char) (letters : ∀ word ∈ words, word ≠ [] ∧ ∀ c ∈ word, counts c = true)
    (some : words ≠ []) : ∃ c more, separator.intercalate words = c :: more ∧ counts c = true := by
  obtain ⟨word, others, rfl⟩ := List.exists_cons_of_ne_nil some
  obtain ⟨filled, own⟩ := letters word (List.mem_cons_self ..)
  obtain ⟨c, more, rfl⟩ := List.exists_cons_of_ne_nil filled
  exact ⟨c, _, intercalate_cons_head .., own c (List.mem_cons_self ..)⟩

theorem intercalate_last (separator : List Char) (letters : ∀ word ∈ words, word ≠ [] ∧ ∀ c ∈ word, counts c = true)
    (some : words ≠ []) : ∃ front c, separator.intercalate words = front ++ [c] ∧ counts c = true := by
  induction words with
  | nil => exact absurd rfl some
  | cons word others ih =>
    cases others with
    | nil =>
      obtain ⟨filled, own⟩ := letters word (List.mem_cons_self ..)
      rw [List.intercalate_singleton]
      exact ⟨_, _, (List.dropLast_append_getLast filled).symm, own _ (List.getLast_mem filled)⟩
    | cons next others =>
      obtain ⟨front, c, last, own⟩ := ih (fun word member => letters word (List.mem_cons_of_mem _ member)) nofun
      refine ⟨word ++ separator ++ front, c, ?_, own⟩
      rw [List.intercalate_cons_cons, last, List.append_assoc, List.append_assoc, List.append_assoc]

end

end TidyRows.Text
