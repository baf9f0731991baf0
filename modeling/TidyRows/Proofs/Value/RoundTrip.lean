import TidyRows.Proofs.Keyed
import TidyRows.Proofs.Value.Tokens
namespace TidyRows

-- Values that lists and records nest in at most so many levels, each field of a record having a name of its own.
inductive Value.Readable : Nat → Value → Prop
  | null : Readable levels .null
  | bool : Readable levels (.bool b)
  | whole : Readable levels (.whole n)
  | real : Readable levels (.real x)
  | text : Readable levels (.text s)
  | list (all : ∀ v ∈ vs, Readable levels v) : Readable (levels + 1) (.list vs)
  | record (distinct : (fields.map Prod.fst).Nodup) (all : ∀ f ∈ fields, Readable levels f.2) :
      Readable (levels + 1) (.record fields)

namespace Read
open Value Written

theorem signed_head (negative : Bool) {n : Numeral} (sound : n.Sound) :
    ∃ c more, signText negative ++ n.text = c :: more ∧ (c = '-' ∨ isDigit c = true) := by
  cases negative with
  | true => exact ⟨_, _, rfl, .inl rfl⟩
  | false =>
    obtain ⟨c, more, text, digit⟩ := numeral_head sound
    exact ⟨c, more, text, .inr digit⟩

theorem intText_head (n : Int) : ∃ c more, intText n = c :: more ∧ (c = '-' ∨ isDigit c = true) := by
  obtain ⟨c, more, text, start⟩ := signed_head (n < 0) (natText_sound n.natAbs)
  refine ⟨c, more, ?_, start⟩
  rw [intText_sign, ← text]
  simp [Numeral.text, Numeral.fractionText, Numeral.exponentText]

theorem dataText_head (x : Finite) : ∃ c more, x.dataText = c :: more ∧ (c = '-' ∨ isDigit c = true) := by
  rw [dataText_numeral]
  exact signed_head _ (numeral_reads x).sound

theorem number_start {c d : Char} (start : c = '-' ∨ isDigit c = true) (sign : d ≠ '-') (digit : isDigit d = false) :
    c ≠ d := by
  rintro rfl
  rcases start with same | same
  · exact sign same
  · rw [digit] at same
    cases same

-- Characters that show in every text.
def Visible (c : Char) : Prop := 33 ≤ c.toNat ∧ c.toNat ≤ 126

instance (c : Char) : Decidable (Visible c) := inferInstanceAs (Decidable (_ ∧ _))

theorem visible_solid {c : Char} (visible : Visible c) : isBlank c = false := by
  cases blank : isBlank c with
  | false => rfl
  | true =>
    unfold isBlank at blank
    simp only [Bool.or_eq_true, decide_eq_true_eq] at blank
    rcases blank with ((rfl | rfl) | rfl) | rfl <;> exact absurd visible.1 (by decide)

theorem number_visible {c : Char} (start : c = '-' ∨ isDigit c = true) : Visible c := by
  rcases start with rfl | digit
  · decide
  · unfold isDigit at digit
    rw [Bool.and_eq_true_iff, decide_eq_true_eq, decide_eq_true_eq] at digit
    have low : '0'.toNat ≤ c.toNat := digit.1
    have high : c.toNat ≤ '9'.toNat := digit.2
    exact ⟨Nat.le_trans (by decide) low, Nat.le_trans high (by decide)⟩

-- The first character of a value is visible and ends no list.
theorem chars_head (v : Value) : ∃ c more, chars v = c :: more ∧ Visible c ∧ c ≠ ']' := by
  have number {cs : List Char} (head : ∃ c more, cs = c :: more ∧ (c = '-' ∨ isDigit c = true)) :
      ∃ c more, cs = c :: more ∧ Visible c ∧ c ≠ ']' := by
    obtain ⟨c, more, text, start⟩ := head
    exact ⟨c, more, text, number_visible start, number_start start (by decide) rfl⟩
  have fixed (c : Char) (more : List Char) (visible : Visible c) (other : c ≠ ']') :
      ∃ d rest, c :: more = d :: rest ∧ Visible d ∧ d ≠ ']' := ⟨c, more, rfl, visible, other⟩
  cases v with
  | whole n => simpa only [chars] using number (intText_head n.val)
  | real x => simpa only [chars] using number (dataText_head x)
  | bool b =>
    cases b <;> rw [chars]
    · exact fixed 'f' _ (by decide) (by decide)
    · exact fixed 't' _ (by decide) (by decide)
  | null => rw [chars]; exact fixed 'n' _ (by decide) (by decide)
  | text s => rw [chars]; exact fixed '"' _ (by decide) (by decide)
  | list vs => rw [chars]; exact fixed '[' _ (by decide) (by decide)
  | record fields => rw [chars]; exact fixed '{' _ (by decide) (by decide)

theorem skipBlanks_solid {c : Char} (solid : isBlank c = false) (more : List Char) :
    skipBlanks (c :: more) = c :: more := by
  unfold skipBlanks
  rw [List.dropWhile_cons_of_neg (by simp [solid])]

theorem value?_number {c : Char} (start : c = '-' ∨ isDigit c = true) (more : List Char) :
    value? (fuel + 1) levels (c :: more) = number? (c :: more) := by
  have other {d : Char} {cs ds : List Char} (same : c :: cs = d :: ds) (sign : d ≠ '-') (digit : isDigit d = false) :
      False := number_start start sign digit (List.cons.inj same).1
  rw [value?, skipBlanks_solid (visible_solid (number_visible start))]
  split
  case h_7 => rfl
  all_goals
    rename_i same
    exact (other same (by decide) rfl).elim

theorem quoted_append (s rest : List Char) : quoted s ++ rest = '"' :: (s.flatMap escaped ++ '"' :: rest) := by
  unfold quoted
  simp

theorem string?_quoted (s : String) (rest : List Char) :
    string? ((s.toList.flatMap escaped ++ '"' :: rest).length + 1) [] (s.toList.flatMap escaped ++ '"' :: rest) =
      some (s, rest) := by
  have each (c : Char) : 1 ≤ (escaped c).length := by
    unfold escaped
    repeat' split
    all_goals simp
  have room : s.toList.length ≤ (s.toList.flatMap escaped).length := by
    rw [List.length_flatMap]
    calc s.toList.length = (s.toList.map fun c => (escaped c).length).length := (List.length_map _).symm
      _ ≤ (s.toList.map fun c => (escaped c).length).sum := List.length_le_sum_of_one_le _ (by simpa using fun c _ => each c)
  rw [string?_text]
  · simp
  · rw [List.length_append]
    omega

theorem value?_text (s : String) (rest : List Char) :
    value? (fuel + 1) levels (chars (.text s) ++ rest) = some (.text s, rest) := by
  rw [chars, quoted_append, value?, skipBlanks_solid (by decide)]
  simp only [string?_quoted, Option.bind_eq_bind, Option.bind_some]

theorem value?_items {c : Char} (solid : isBlank c = false) (other : c ≠ ']') (more : List Char) :
    value? (fuel + 1) (levels + 1) ('[' :: c :: more) = items? fuel levels [] (c :: more) := by
  rw [value?, skipBlanks_solid (by decide)]
  simp only [skipBlanks_solid solid]
  rw [if_neg (Nat.succ_ne_zero levels)]
  split
  · rename_i same
    exact absurd (List.cons.inj same).1 other
  · rfl

theorem value?_members (more : List Char) :
    value? (fuel + 1) (levels + 1) ('{' :: '"' :: more) = members? fuel levels [] ('"' :: more) := by
  rw [value?, skipBlanks_solid (by decide)]
  simp only [skipBlanks_solid (c := '"') (by decide)]
  rfl

theorem items?_more {cs rest : List Char} (first : value? fuel levels cs = some (v, ',' :: rest)) :
    items? (fuel + 1) levels done cs = items? fuel levels (v :: done) rest := by
  rw [items?, first]
  rfl

theorem items?_last {cs rest : List Char} (first : value? fuel levels cs = some (v, ']' :: rest)) :
    items? (fuel + 1) levels done cs = some (.list (done.reverse ++ [v]), rest) := by
  rw [items?, first]
  simp [skipBlanks_solid (c := ']') (by decide)]

theorem members?_more {name : String} {cs rest : List Char} (value : value? fuel levels cs = some (v, ',' :: rest)) :
    members? (fuel + 1) levels done (quoted name.toList ++ ':' :: cs) = members? fuel levels (putEntry name v done) rest := by
  rw [quoted_append, members?, skipBlanks_solid (by decide)]
  simp only [string?_quoted, Option.bind_eq_bind, Option.bind_some, skipBlanks_solid (c := ':') (by decide), value,
    skipBlanks_solid (c := ',') (by decide)]

theorem members?_last {name : String} {cs rest : List Char} (value : value? fuel levels cs = some (v, '}' :: rest)) :
    members? (fuel + 1) levels done (quoted name.toList ++ ':' :: cs) = some (.record (putEntry name v done), rest) := by
  rw [quoted_append, members?, skipBlanks_solid (by decide)]
  simp only [string?_quoted, Option.bind_eq_bind, Option.bind_some, skipBlanks_solid (c := ':') (by decide), value,
    skipBlanks_solid (c := '}') (by decide)]

theorem ends_cons {c : Char} {rest : List Char} (other : c = ',' ∨ c = ']' ∨ c = '}') : Ends (c :: rest) := by
  rintro _ _ ⟨⟩
  rcases other with rfl | rfl | rfl <;> decide

theorem separated_more (p q : List Char) (rest : List (List Char)) :
    separated (p :: q :: rest) = p ++ ',' :: separated (q :: rest) := rfl

theorem items_head (v : Value) (vs : List Value) :
    ∃ c more, separated (items (v :: vs)) = c :: more ∧ Visible c ∧ c ≠ ']' := by
  obtain ⟨c, more, text, opens⟩ := chars_head v
  rw [items, text]
  cases vs with
  | nil => exact ⟨c, more, rfl, opens⟩
  | cons w vs => exact ⟨c, _, rfl, opens⟩

theorem members_head (name : String) (v : Value) (fields : List (String × Value)) :
    ∃ more, separated (members ((name, v) :: fields)) = '"' :: more := by
  rw [members, quoted_append]
  cases fields with
  | nil => exact ⟨_, rfl⟩
  | cons f fields => exact ⟨_, rfl⟩

-- Fuel for twice the length of what is written is enough: a value and a place in a list or a record take one each.
def ReadsValue (fuel : Nat) : Prop :=
  ∀ levels v rest, Readable levels v → 2 * (chars v).length ≤ fuel → Ends rest →
    value? fuel levels (chars v ++ rest) = some (v, rest)

def ReadsItems (fuel : Nat) : Prop :=
  ∀ levels v vs done rest, (∀ w ∈ v :: vs, Readable levels w) → 2 * (separated (items (v :: vs))).length < fuel →
    items? fuel levels done (separated (items (v :: vs)) ++ ']' :: rest) = some (.list (done.reverse ++ v :: vs), rest)

def ReadsMembers (fuel : Nat) : Prop :=
  ∀ levels name v fields done rest, (∀ f ∈ (name, v) :: fields, Readable levels f.2) →
    ((done ++ (name, v) :: fields).map Prod.fst).Nodup → 2 * (separated (members ((name, v) :: fields))).length < fuel →
    members? fuel levels done (separated (members ((name, v) :: fields)) ++ '}' :: rest) =
      some (.record (done ++ (name, v) :: fields), rest)

theorem reads_value {fuel : Nat} (several : ReadsItems fuel) (fields : ReadsMembers fuel) : ReadsValue (fuel + 1) := by
  intro levels v rest readable fits ends
  cases readable with
  | null => rw [chars]; rfl
  | bool =>
    rename_i b
    cases b <;> rw [chars] <;> rfl
  | whole =>
    rename_i n
    have read := number?_whole n ends
    obtain ⟨c, more, text, start⟩ := intText_head n.val
    rw [text, List.cons_append] at read
    rw [chars, text, List.cons_append, value?_number start, read]
  | real =>
    rename_i x
    have read := number?_real x ends
    obtain ⟨c, more, text, start⟩ := dataText_head x
    rw [text, List.cons_append] at read
    rw [chars, text, List.cons_append, value?_number start, read]
  | text => exact value?_text _ _
  | list all =>
    rename_i vs levels
    cases vs with
    | nil => rw [chars]; rfl
    | cons v vs =>
      rw [chars] at fits ⊢
      have read := several levels v vs [] rest all (by simp at fits; omega)
      obtain ⟨c, more, text, visible, other⟩ := items_head v vs
      rw [text, List.cons_append] at read
      simp only [List.cons_append, List.append_assoc, text, List.nil_append]
      rw [value?_items (visible_solid visible) other, read]
      rfl
  | record distinct all =>
    rename_i named levels
    cases named with
    | nil => rw [chars]; rfl
    | cons f named =>
      obtain ⟨name, v⟩ := f
      rw [chars] at fits ⊢
      have read := fields levels name v named [] rest all distinct (by simp at fits; omega)
      obtain ⟨more, text⟩ := members_head name v named
      rw [text, List.cons_append] at read
      simp only [List.cons_append, List.append_assoc, text, List.nil_append]
      rw [value?_members, read]
      rfl

theorem reads_items {fuel : Nat} (value : ReadsValue fuel) (several : ReadsItems fuel) : ReadsItems (fuel + 1) := by
  intro levels v vs done rest all fits
  have here := all v List.mem_cons_self
  cases vs with
  | nil =>
    have text : separated (items [v]) = chars v := by rw [items, items, separated]
    rw [text] at fits ⊢
    have fits : 2 * (chars v).length ≤ fuel := by omega
    exact items?_last (value levels v (']' :: rest) here fits (ends_cons (by simp)))
  | cons w vs =>
    have text : separated (items (v :: w :: vs)) = chars v ++ ',' :: separated (items (w :: vs)) := by
      rw [items, items, separated_more]
    rw [text] at fits ⊢
    rw [List.length_append, List.length_cons] at fits
    have first := value levels v (',' :: (separated (items (w :: vs)) ++ ']' :: rest)) here (by omega)
      (ends_cons (by simp))
    have others := several levels w vs (v :: done) rest (fun u member => all u (List.mem_cons_of_mem _ member)) (by omega)
    rw [List.append_assoc, List.cons_append, items?_more first, others]
    simp

theorem reads_members {fuel : Nat} (value : ReadsValue fuel) (fields : ReadsMembers fuel) : ReadsMembers (fuel + 1) := by
  intro levels name v named done rest all distinct fits
  have here := all (name, v) List.mem_cons_self
  have absent : name ∉ done.map Prod.fst := by
    intro member
    rw [List.map_append] at distinct
    exact (List.nodup_append.mp distinct).2.2 name member name (by simp) rfl
  have new := putEntry_new absent v
  cases named with
  | nil =>
    have text : separated (members [(name, v)]) = quoted name.toList ++ ':' :: chars v := by
      rw [members, members, separated]
    rw [text] at fits ⊢
    rw [List.length_append, List.length_cons] at fits
    have last := value levels v ('}' :: rest) here (by omega) (ends_cons (by simp))
    rw [List.append_assoc, List.cons_append, members?_last last, new]
  | cons f named =>
    obtain ⟨next, w⟩ := f
    have text : separated (members ((name, v) :: (next, w) :: named)) =
        quoted name.toList ++ ':' :: (chars v ++ ',' :: separated (members ((next, w) :: named))) := by
      rw [members, members, separated_more, List.append_assoc, List.cons_append]
    rw [text] at fits ⊢
    simp only [List.length_append, List.length_cons] at fits
    have first := value levels v (',' :: (separated (members ((next, w) :: named)) ++ '}' :: rest)) here (by omega)
      (ends_cons (by simp))
    have others := fields levels next w named (done ++ [(name, v)]) rest
      (fun f member => all f (List.mem_cons_of_mem _ member)) (by simpa using distinct) (by omega)
    simp only [List.append_assoc, List.cons_append]
    rw [members?_more first, new, others]
    simp

theorem reads_back (fuel : Nat) : ReadsValue fuel ∧ ReadsItems fuel ∧ ReadsMembers fuel := by
  induction fuel with
  | zero =>
    refine ⟨?_, nofun, nofun⟩
    intro levels v rest _ fits _
    obtain ⟨c, more, text, _⟩ := chars_head v
    rw [text, List.length_cons] at fits
    omega
  | succ fuel ih =>
    obtain ⟨value, several, fields⟩ := ih
    exact ⟨reads_value several fields, reads_items value several, reads_members value fields⟩

theorem document?_chars {v : Value} (readable : Readable levels v) : document? levels (chars v) = some v := by
  have read := (reads_back (2 * (chars v).length + 2)).1 levels v [] readable (Nat.le_add_right _ _) ends_nil
  rw [List.append_nil] at read
  unfold document?
  rw [read]
  rfl

end Read

theorem Value.ofText?_written {v : Value} (readable : v.Readable Read.maxLevels) : ofText? v.written = some v := by
  unfold ofText? written
  rw [String.toList_ofList]
  exact Read.document?_chars readable

end TidyRows
