import TidyRows.Duration
import TidyRows.Proofs.Text.Blanks
import TidyRows.Proofs.Value.Tokens
import TidyRows.Text.Words
namespace TidyRows
namespace Duration

def Amount.worth (a : Amount) : Nat := a.seconds * nanosPerSecond + a.nanos

structure Part where
  count : Nat
  name : String
  amount : Amount

namespace Part

def worth (p : Part) : Nat := p.count * p.amount.worth

def term (p : Part) : Term := ⟨natText p.count, none, p.name.toList⟩

def text? (p : Part) : Option String := countText p.count p.name

end Part

def total : List Part → Nat
  | [] => 0
  | p :: rest => p.worth + total rest

def plural (n : Nat) (name : String) : String := if 1 < n then name ++ "s" else name

def parts (d : Duration) : List Part :=
  let months := d.seconds % yearSeconds
  let days := months % monthSeconds
  let inDay := days % daySeconds
  [⟨d.seconds / yearSeconds, plural (d.seconds / yearSeconds) "year", ⟨yearSeconds, 0⟩⟩,
    ⟨months / monthSeconds, plural (months / monthSeconds) "month", ⟨monthSeconds, 0⟩⟩,
    ⟨days / daySeconds, plural (days / daySeconds) "day", ⟨daySeconds, 0⟩⟩, ⟨inDay / 3600, "h", ⟨3600, 0⟩⟩,
    ⟨inDay % 3600 / 60, "m", ⟨60, 0⟩⟩, ⟨inDay % 60, "s", ⟨1, 0⟩⟩,
    ⟨d.nanos % nanosPerSecond / 1000000, "ms", ⟨0, 1000000⟩⟩, ⟨d.nanos % 1000000 / 1000, "us", ⟨0, 1000⟩⟩,
    ⟨d.nanos % 1000, "ns", ⟨0, 1⟩⟩]

theorem worth_seconds (n : Nat) (name : String) (k : Nat) : Part.worth ⟨n, name, ⟨k, 0⟩⟩ = n * k * nanosPerSecond := by
  simp only [Part.worth, Amount.worth, Nat.add_zero, Nat.mul_assoc]

theorem worth_nanos (n : Nat) (name : String) (k : Nat) : Part.worth ⟨n, name, ⟨0, k⟩⟩ = n * k := by
  simp only [Part.worth, Amount.worth, Nat.zero_mul, Nat.zero_add]

theorem day_split (n : Nat) : n / 3600 * 3600 + (n % 3600 / 60 * 60 + n % 60) = n := by
  have minute : n % 60 = n % 3600 % 60 := (Nat.mod_mod_of_dvd _ (by decide)).symm
  rw [minute, Nat.div_add_mod', Nat.div_add_mod']

theorem seconds_split (n : Nat) : n / yearSeconds * yearSeconds + (n % yearSeconds / monthSeconds * monthSeconds +
    (n % yearSeconds % monthSeconds / daySeconds * daySeconds + n % yearSeconds % monthSeconds % daySeconds)) = n := by
  rw [Nat.div_add_mod', Nat.div_add_mod', Nat.div_add_mod']

theorem nanos_split (n : Nat) :
    n % nanosPerSecond / 1000000 * 1000000 + (n % 1000000 / 1000 * 1000 + n % 1000) = n % nanosPerSecond := by
  have milli : n % 1000000 = n % nanosPerSecond % 1000000 := (Nat.mod_mod_of_dvd _ (by decide)).symm
  have micro : n % 1000 = n % 1000000 % 1000 := (Nat.mod_mod_of_dvd _ (by decide)).symm
  rw [micro, Nat.div_add_mod', milli, Nat.div_add_mod']

theorem parts_total (d : Duration) : total d.parts = d.nanos := by
  have whole : d.seconds * nanosPerSecond + d.nanos % nanosPerSecond = d.nanos := Nat.div_add_mod' _ _
  have large := seconds_split d.seconds
  have day := day_split (d.seconds % yearSeconds % monthSeconds % daySeconds)
  have small := nanos_split d.nanos
  unfold parts
  simp only [total, worth_seconds, worth_nanos]
  rw [← large, ← day, ← small] at whole
  linarith

theorem text_parts (d : Duration) : d.text = match d.parts.filterMap Part.text? with
    | [] => "0s"
    | texts => " ".intercalate texts := by
  have texts : d.parts.filterMap Part.text? = (d.parts.map Part.text?).filterMap id := by
    rw [List.filterMap_map, Function.id_comp]
  rw [texts]
  exact rfl

-- The characters of the name of a unit: none of them ends it.
def inName (c : Char) : Bool := isUnitLetter c && !isDigit c && !Unicode.isBlank c

theorem inName_parts {c : Char} (letter : inName c = true) :
    isUnitLetter c = true ∧ isDigit c = false ∧ Unicode.isBlank c = false := by
  simpa [inName, and_assoc] using letter

theorem readTerms_digits {ds : List Char} (digits : ∀ c ∈ ds, isDigit c = true) (done : List Term) (t : Term)
    (rest : List Char) :
    readTerms done (.whole t) (ds ++ rest) = readTerms done (.whole { t with whole := t.whole ++ ds }) rest := by
  induction ds generalizing t with
  | nil => rw [List.nil_append, List.append_nil]
  | cons c ds ih =>
    rw [List.cons_append, readTerms, if_pos (digits c List.mem_cons_self),
      ih fun d member => digits d (List.mem_cons_of_mem _ member)]
    simp

theorem readTerms_letters {cs : List Char} (letters : ∀ c ∈ cs, inName c = true) (done : List Term) (t : Term)
    (rest : List Char) :
    readTerms done (.name t) (cs ++ rest) = readTerms done (.name { t with name := t.name ++ cs }) rest := by
  induction cs generalizing t with
  | nil => rw [List.nil_append, List.append_nil]
  | cons c cs ih =>
    obtain ⟨letter, digit, blank⟩ := inName_parts (letters c List.mem_cons_self)
    rw [List.cons_append, readTerms, digit, blank, if_neg (by decide), if_neg (by decide), if_pos letter,
      ih fun d member => letters d (List.mem_cons_of_mem _ member)]
    simp

theorem readTerms_first {c : Char} (letter : inName c = true) (done : List Term) (t : Term) (rest : List Char) :
    readTerms done (.whole t) (c :: rest) = readTerms done (.name { t with name := [c] }) rest := by
  obtain ⟨letter, digit, blank⟩ := inName_parts letter
  rw [readTerms, digit, blank, if_neg (by decide), if_neg (by decide), if_pos letter]

theorem readTerms_blank (done : List Term) (t : Term) (rest : List Char) :
    readTerms done (.name t) (' ' :: rest) = readTerms (t :: done) .between rest := rfl

theorem readTerms_term {ds cs : List Char} (count : ds ≠ []) (digits : ∀ c ∈ ds, isDigit c = true) (named : cs ≠ [])
    (letters : ∀ c ∈ cs, inName c = true) (done : List Term) (rest : List Char) :
    readTerms done .between (ds ++ cs ++ rest) = readTerms done (.name ⟨ds, none, cs⟩) rest := by
  obtain ⟨d, ds, rfl⟩ := List.exists_cons_of_ne_nil count
  obtain ⟨c, cs, rfl⟩ := List.exists_cons_of_ne_nil named
  rw [List.append_assoc, List.cons_append, readTerms, if_pos (digits d List.mem_cons_self),
    readTerms_digits fun e member => digits e (List.mem_cons_of_mem _ member), List.cons_append (a := c),
    readTerms_first (letters c List.mem_cons_self),
    readTerms_letters fun e member => letters e (List.mem_cons_of_mem _ member)]
  simp

structure Names (name : String) (a : Amount) : Prop where
  some : name.toList ≠ []
  letters : ∀ c ∈ name.toList, inName c = true
  unit : ∃ u, unitOfName? name.toList = .some u ∧ u.whole = a

-- A part that can be added: its name is known, and nanoseconds make less than a second of it.
structure Part.Known (p : Part) : Prop where
  names : Names p.name p.amount
  some : 0 < p.amount.worth
  small : p.count * p.amount.nanos < nanosPerSecond

def Part.chars (p : Part) : List Char := natText p.count ++ p.name.toList

theorem readTerms_parts {parts : List Part} (known : ∀ p ∈ parts, p.Known) (some : parts ≠ []) (done : List Term) :
    readTerms done .between ([' '].intercalate (parts.map Part.chars)) =
      .some (done.reverse ++ parts.map Part.term) := by
  induction parts generalizing done with
  | nil => exact absurd rfl some
  | cons p rest ih =>
    have names := (known p List.mem_cons_self).names
    have first (after : List Char) : readTerms done .between (p.chars ++ after) = readTerms done (.name p.term) after :=
      readTerms_term Nat.toDigits_ne_nil (fun c member => isDigit_of_natText member) names.some names.letters done after
    cases rest with
    | nil =>
      have last := first []
      rw [List.append_nil] at last
      rw [List.map_cons, List.map_nil, List.intercalate_singleton, last, readTerms, List.reverse_cons]
      rfl
    | cons q others =>
      have later := ih (fun q member => known q (List.mem_cons_of_mem _ member)) (List.cons_ne_nil _ _) (p.term :: done)
      rw [List.map_cons, List.map_cons, List.intercalate_cons_cons, List.append_assoc, first, List.singleton_append,
        readTerms_blank, ← List.map_cons, later]
      simp

theorem word?_small {n : Nat} (small : n < wordLimit) : word? n = some n := if_pos small

theorem worth_seconds_fit {n sum : Nat} {a : Amount} (fits : sum + n * a.worth < wordLimit * nanosPerSecond) :
    n * a.worth = n * a.seconds * nanosPerSecond + n * a.nanos ∧ n * a.seconds < wordLimit := by
  have worth : n * a.worth = n * a.seconds * nanosPerSecond + n * a.nanos := by
    unfold Amount.worth
    ring
  have : n * a.seconds * nanosPerSecond < wordLimit * nanosPerSecond := by omega
  exact ⟨worth, Nat.lt_of_mul_lt_mul_right this⟩

-- Adding an amount stays in range as long as the sum does.
theorem addAmount?_fits {n sum : Nat} {a : Amount} (small : n * a.nanos < nanosPerSecond)
    (fits : sum + n * a.worth < wordLimit * nanosPerSecond) : addAmount? n 1 a sum = some (sum + n * a.worth) := by
  obtain ⟨worth, seconds⟩ := worth_seconds_fit fits
  have second : nanosPerSecond + nanosPerSecond < wordLimit := by decide
  have nanos : n * a.nanos < wordLimit := by omega
  have rest : sum % nanosPerSecond + n * a.nanos < wordLimit := by
    have : sum % nanosPerSecond < nanosPerSecond := Nat.mod_lt _ (by decide)
    omega
  have total : (sum + n * a.seconds * nanosPerSecond + n * a.nanos) / nanosPerSecond < wordLimit := by
    rw [Nat.div_lt_iff_lt_mul (by decide)]
    omega
  unfold addAmount?
  rw [word?_small seconds, word?_small nanos]
  simp only [Option.bind_eq_bind, Option.bind_some]
  rw [Nat.mod_one, Nat.mod_one, Nat.div_one, Nat.div_one, if_neg (by decide), word?_small rest, Option.bind_some,
    if_pos total, worth, Nat.add_assoc]

theorem count_small {p : Part} (known : p.Known) {sum : Nat} (fits : sum + p.worth < wordLimit * nanosPerSecond) :
    p.count < wordLimit := by
  obtain ⟨_, seconds⟩ := worth_seconds_fit fits
  by_cases long : 0 < p.amount.seconds
  · exact Nat.lt_of_le_of_lt (Nat.le_mul_of_pos_right _ long) seconds
  · have nanos : 0 < p.amount.nanos := by
      have some := known.some
      rw [Amount.worth, Nat.eq_zero_of_not_pos long, Nat.zero_mul, Nat.zero_add] at some
      exact some
    have second : nanosPerSecond < wordLimit := by decide
    exact Nat.lt_of_le_of_lt (Nat.le_mul_of_pos_right _ nanos) (Nat.lt_trans known.small second)

theorem addTerm?_part {p : Part} (known : p.Known) {sum : Nat} (fits : sum + p.worth < wordLimit * nanosPerSecond) :
    addTerm? p.term sum = some (sum + p.worth) := by
  obtain ⟨u, unit, amount⟩ := known.names.unit
  unfold addTerm? Part.term
  dsimp only
  rw [unit, digitsValue_natText]
  simp only [Option.bind_eq_bind, Option.bind_some, word?_small (count_small known fits)]
  rw [amount, addAmount?_fits known.small fits]
  rfl

theorem addTerms_total {parts : List Part} (known : ∀ p ∈ parts, p.Known) {sum : Nat}
    (fits : sum + total parts < wordLimit * nanosPerSecond) :
    (parts.map Part.term).foldlM (fun sum t => addTerm? t sum) sum = some (sum + total parts) := by
  induction parts generalizing sum with
  | nil => rfl
  | cons p rest ih =>
    rw [total] at fits ⊢
    rw [List.map_cons, List.foldlM_cons, addTerm?_part (known p List.mem_cons_self) (by omega), Option.bind_eq_bind,
      Option.bind_some, ih (fun q member => known q (List.mem_cons_of_mem _ member)) (by omega), Nat.add_assoc]

theorem text?_chars {p : Part} (some : p.count ≠ 0) : p.text?.map String.toList = .some p.chars := by
  unfold Part.text? countText Part.chars
  rw [if_neg some]
  simp

theorem names_plural {name : String} {a : Amount} (one : Names name a) (more : Names (name ++ "s") a) (n : Nat) :
    Names (plural n name) a := by
  unfold plural
  split
  · exact more
  · exact one

theorem names_of {name : String} {a : Amount} (some : name.toList.isEmpty = false)
    (letters : name.toList.all inName = true) (unit : (unitOfName? name.toList).map TimeUnit.whole = .some a) :
    Names name a :=
  ⟨by simpa using some, List.all_eq_true.mp letters, Option.map_eq_some_iff.mp unit⟩

theorem known_seconds {n k : Nat} {name : String} (names : Names name ⟨k, 0⟩) (some : 0 < k) :
    Part.Known ⟨n, name, ⟨k, 0⟩⟩ := by
  refine ⟨names, ?_, ?_⟩
  · exact Nat.add_pos_left (Nat.mul_pos some (by decide)) _
  · show n * 0 < nanosPerSecond
    rw [Nat.mul_zero]
    decide

theorem known_nanos {n k : Nat} {name : String} (names : Names name ⟨0, k⟩) (some : 0 < k)
    (small : n * k < nanosPerSecond) : Part.Known ⟨n, name, ⟨0, k⟩⟩ := by
  refine ⟨names, ?_, small⟩
  show 0 < 0 * nanosPerSecond + k
  rwa [Nat.zero_mul, Nat.zero_add]

theorem parts_known (d : Duration) : ∀ p ∈ d.parts, p.Known := by
  have fewer : 1000000 < nanosPerSecond := by decide
  have millis : d.nanos % nanosPerSecond / 1000000 * 1000000 < nanosPerSecond :=
    Nat.lt_of_le_of_lt (Nat.div_mul_le_self _ _) (Nat.mod_lt _ (by decide))
  have micros : d.nanos % 1000000 / 1000 * 1000 < nanosPerSecond :=
    Nat.lt_trans (Nat.lt_of_le_of_lt (Nat.div_mul_le_self _ _) (Nat.mod_lt _ (by decide))) fewer
  have nanos : d.nanos % 1000 * 1 < nanosPerSecond := by omega
  unfold parts
  simp only [List.forall_mem_cons]
  refine ⟨known_seconds (names_plural ?_ ?_ _) (by decide), known_seconds (names_plural ?_ ?_ _) (by decide),
    known_seconds (names_plural ?_ ?_ _) (by decide), known_seconds ?_ (by decide), known_seconds ?_ (by decide),
    known_seconds ?_ (by decide), known_nanos ?_ (by decide) millis, known_nanos ?_ (by decide) micros,
    known_nanos ?_ (by decide) nanos, nofun⟩
  all_goals exact names_of rfl rfl rfl

-- Parts with none of their unit are left out, and count for nothing.
def shown (parts : List Part) : List Part := parts.filter fun p => p.count != 0

theorem total_shown (parts : List Part) : total (shown parts) = total parts := by
  induction parts with
  | nil => rfl
  | cons p rest ih =>
    unfold shown at ih ⊢
    rw [List.filter_cons]
    split
    · rw [total, total, ih]
    · rename_i none
      have zero : p.count = 0 := by simpa using none
      rw [total, ih, Part.worth, zero, Nat.zero_mul, Nat.zero_add]

theorem texts_shown (parts : List Part) :
    (parts.filterMap Part.text?).map String.toList = (shown parts).map Part.chars := by
  induction parts with
  | nil => rfl
  | cons p rest ih =>
    unfold shown at ih ⊢
    by_cases none : p.count = 0
    · have absent : p.text? = .none := if_pos none
      rw [List.filterMap_cons_none absent, List.filter_cons_of_neg (by simpa using none), ih]
    · have present := text?_chars none
      obtain ⟨text, here, chars⟩ := Option.map_eq_some_iff.mp present
      rw [List.filterMap_cons_some here, List.filter_cons_of_pos (by simpa using none), List.map_cons, List.map_cons,
        ih, chars]

-- A text of parts starts with a digit and ends with a letter, so that no blanks are at its ends.
theorem chars_start {parts : List Part} (some : parts ≠ []) :
    ∃ c more, [' '].intercalate (parts.map Part.chars) = c :: more ∧ isDigit c = true := by
  obtain ⟨p, rest, rfl⟩ := List.exists_cons_of_ne_nil some
  obtain ⟨c, more, count⟩ := List.exists_cons_of_ne_nil (Nat.toDigits_ne_nil (n := p.count) (b := 10))
  have count : natText p.count = c :: more := count
  have digit : isDigit c = true := isDigit_of_natText (n := p.count) (by rw [count]; exact List.mem_cons_self)
  cases rest with
  | nil =>
    rw [List.map_cons, List.map_nil, List.intercalate_singleton, Part.chars, count]
    exact ⟨c, _, rfl, digit⟩
  | cons q others =>
    rw [List.map_cons, List.map_cons, List.intercalate_cons_cons, Part.chars, count]
    exact ⟨c, _, rfl, digit⟩

theorem chars_final {parts : List Part} (known : ∀ p ∈ parts, p.Known) (some : parts ≠ []) :
    ∃ front c, [' '].intercalate (parts.map Part.chars) = front ++ [c] ∧ inName c = true := by
  induction parts with
  | nil => exact absurd rfl some
  | cons p rest ih =>
    cases rest with
    | nil =>
      have names := (known p List.mem_cons_self).names
      have name := List.dropLast_append_getLast names.some
      refine ⟨natText p.count ++ p.name.toList.dropLast, p.name.toList.getLast names.some, ?_,
        names.letters _ (List.getLast_mem _)⟩
      rw [List.map_cons, List.map_nil, List.intercalate_singleton, Part.chars, List.append_assoc, name]
    | cons q others =>
      obtain ⟨front, c, final, letter⟩ :=
        ih (fun q member => known q (List.mem_cons_of_mem _ member)) (List.cons_ne_nil _ _)
      refine ⟨p.chars ++ [' '] ++ front, c, ?_, letter⟩
      rw [List.map_cons, List.map_cons, List.intercalate_cons_cons, ← List.map_cons, final, ← List.append_assoc]

-- The parts that are written: those that count for something, or no seconds where there are none.
theorem text_parted (d : Duration) : ∃ parts : List Part, parts ≠ [] ∧ (∀ p ∈ parts, p.Known) ∧ total parts = d.nanos ∧
    d.text.toList = [' '].intercalate (parts.map Part.chars) := by
  have value : total (shown d.parts) = d.nanos := (total_shown _).trans (parts_total d)
  have texts := texts_shown d.parts
  rw [text_parts]
  cases parts : d.parts.filterMap Part.text? with
  | nil =>
    rw [parts, List.map_nil] at texts
    rw [List.map_eq_nil_iff.mp texts.symm] at value
    have known : Part.Known ⟨0, "s", ⟨1, 0⟩⟩ := known_seconds (names_of rfl rfl rfl) (by decide)
    refine ⟨[⟨0, "s", ⟨1, 0⟩⟩], List.cons_ne_nil _ _, List.forall_mem_singleton.mpr known, ?_, rfl⟩
    rw [← value, total, total, Part.worth, Nat.zero_mul, Nat.zero_add]
    rfl
  | cons text rest =>
    refine ⟨shown d.parts, ?_, fun p member => parts_known d p (List.mem_of_mem_filter member), value, ?_⟩
    · intro none
      rw [none, parts] at texts
      cases texts
    · show (" ".intercalate (text :: rest)).toList = _
      rw [String.toList_intercalate, ← parts, texts]
      rfl

theorem ofText?_text (d : Duration) : ofText? (Text.trim d.text.toList) = some d := by
  obtain ⟨parts, some, known, value, chars⟩ := text_parted d
  obtain ⟨c, more, start, digit⟩ := chars_start some
  obtain ⟨front, e, final, letter⟩ := chars_final known some
  obtain ⟨_, other, visible⟩ := inName_parts letter
  rw [chars, Text.trim_ends ⟨c, more, start, Text.digit_visible digit⟩ ⟨front, e, final, visible⟩]
  have letters : ([' '].intercalate (parts.map Part.chars) == ['0']) = false := by
    rw [beq_eq_false_iff_ne, final]
    intro same
    have : e = '0' := by simpa using (List.append_inj' (same.trans (List.nil_append ['0']).symm) rfl).2
    rw [this] at other
    cases other
  have fits : 0 + total parts < wordLimit * nanosPerSecond := by
    rw [value, Nat.zero_add]
    exact d.small
  have sum := addTerms_total known fits
  unfold ofText?
  rw [letters, readTerms_parts known some]
  simp only [Bool.false_eq_true, if_false, List.reverse_nil, List.nil_append, Option.bind_eq_bind, Option.bind_some]
  rw [if_neg (by simpa using some), sum, Option.bind_some, value, Nat.zero_add]
  exact dif_pos d.small

end Duration
end TidyRows
