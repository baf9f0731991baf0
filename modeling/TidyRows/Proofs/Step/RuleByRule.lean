import TidyRows.Proofs.Dedupe.Unique
namespace TidyRows.Rule
open Dedupe (keySignature Remembers ordered_zipIdx mem_zipIdx_iff)

-- A rule at work, with the signatures that it has met. Only the rule against repetition keeps any.
structure Watch where
  rule : Rule
  met : List String

def repetition (fields : List String) (message : Option String) (i : Nat) : Finding :=
  ⟨some i, some (fieldsLabel fields), .unique, message.getD (uniqueMessage (fieldsLabel fields))⟩

-- What a rule says of the next row, and what it remembers after it.
def Watch.look [Libraries] (w : Watch) (row : Row) (i : Nat) : Option Finding × Watch :=
  match w.rule with
  | .unique fields message =>
    match keySignature fields row with
    | none => (none, w)
    | some s =>
      if s ∈ w.met then (some (repetition fields message i), w)
      else (none, { w with met := w.met ++ [s] })
  | rule => (rule.check.ask [] row i, w)

structure Remark where
  row : Nat
  place : Nat
  finding : Finding

-- One row before the rules from some place on.
def lookAll [Libraries] (row : Row) (i : Nat) : (place : Nat) → List Watch → List Remark × List Watch
  | _, [] => ([], [])
  | place, w :: rest =>
    let (said, w) := w.look row i
    let (later, rest) := lookAll row i (place + 1) rest
    ((said.map (⟨i, place, ·⟩)).toList ++ later, w :: rest)

def lookOver [Libraries] (watches : List Watch) : List Dedupe.Numbered → List Remark
  | [] => []
  | n :: rest =>
    let (remarks, watches) := lookAll n.1 n.2 0 watches
    remarks ++ lookOver watches rest

def remarks [Libraries] (rules : List Rule) (rows : List Row) : List Remark := lookOver (rules.map (⟨·, []⟩)) rows.zipIdx

def contributed [Libraries] (rules : List Rule) (rows : List Row) (place : Nat) : List Finding :=
  ((remarks rules rows).filter (·.place == place)).map (·.finding)

-- What the rules from some place on say of a row when they are shown all rows before it.
def askAll [Libraries] (done : List Row) (row : Row) (i place : Nat) (rules : List Rule) : List Remark :=
  (rules.zipIdx place).filterMap fun r => (r.1.check.ask done row i).map (⟨i, r.2, ·⟩)

section
variable {w : Watch} {done : List Row} {row : Row} {i place : Nat} {rules : List Rule}

-- A rule knows enough of the rows that it has seen to need no other look at them.
def Watch.Knows (w : Watch) (done : List Row) : Prop :=
  ∀ fields message, w.rule = .unique fields message → Remembers fields w.met done

theorem start_knows (rule : Rule) : (⟨rule, []⟩ : Watch).Knows [] := fun _ _ _ => .start

theorem unique_asks [Libraries] {fields : List String} (message : Option String) {met : List String}
    (knows : Remembers fields met done) (row : Row) (i : Nat) : (Rule.unique fields message).check.ask done row i =
      (keySignature fields row).bind fun s => if s ∈ met then some (repetition fields message i) else none := by
  unfold check keySignature
  dsimp only
  cases has : signature? row fields signatureDelimiter with
  | none => rfl
  | some s =>
    have same : (done.any fun r => signature? r fields signatureDelimiter == some s) = true ↔ s ∈ met := by
      rw [knows s]
      simp [keySignature]
    simp only [same, Option.bind_some]
    rfl

-- One look: the rule says what it says on seeing all rows again, and knows one row more.
theorem look_knows [Libraries] (knows : w.Knows done) (row : Row) (i : Nat) :
    (w.look row i).1 = w.rule.check.ask done row i ∧ (w.look row i).2.rule = w.rule ∧
      (w.look row i).2.Knows (done ++ [row]) := by
  obtain ⟨rule, met⟩ := w
  cases rule with
  | unique fields message =>
    have knows : Remembers fields met done := knows fields message rfl
    rw [unique_asks message knows]
    cases has : keySignature fields row with
    | none =>
      have looked : Watch.look ⟨.unique fields message, met⟩ row i = (none, ⟨.unique fields message, met⟩) := by
        simp only [Watch.look, has]
      rw [looked]
      exact ⟨rfl, rfl, fun _ _ same => by cases same; exact knows.blank has⟩
    | some s =>
      by_cases old : s ∈ met
      · have looked : Watch.look ⟨.unique fields message, met⟩ row i =
            (some (repetition fields message i), ⟨.unique fields message, met⟩) := by
          simp only [Watch.look, has, if_pos old]
        rw [looked]
        exact ⟨(if_pos old).symm, rfl, fun _ _ same => by cases same; exact knows.old has old⟩
      · have looked : Watch.look ⟨.unique fields message, met⟩ row i =
            (none, ⟨.unique fields message, met ++ [s]⟩) := by
          simp only [Watch.look, has, if_neg old]
        rw [looked]
        exact ⟨(if_neg old).symm, rfl, fun _ _ same => by cases same; exact knows.new has⟩
  | _ => exact ⟨rfl, rfl, nofun⟩

theorem askAll_cons [Libraries] (rule : Rule) (rest : List Rule) : askAll done row i place (rule :: rest) =
    ((rule.check.ask done row i).map (⟨i, place, ·⟩)).toList ++ askAll done row i (place + 1) rest := by
  unfold askAll
  rw [List.zipIdx_cons, List.filterMap_cons]
  cases rule.check.ask done row i <;> rfl

theorem askAll_append [Libraries] (before after : List Rule) : askAll done row i place (before ++ after) =
    askAll done row i place before ++ askAll done row i (place + before.length) after := by
  unfold askAll
  rw [List.zipIdx_append, List.filterMap_append]

theorem mem_askAll [Libraries] {m : Remark} (member : m ∈ askAll done row i place rules) :
    m.row = i ∧ place ≤ m.place ∧ m.place < place + rules.length ∧
      ∃ rule, rules[m.place - place]? = some rule ∧ rule.check.ask done row i = some m.finding := by
  obtain ⟨⟨rule, p⟩, inside, found⟩ := List.mem_filterMap.mp member
  obtain ⟨finding, said, rfl⟩ := Option.map_eq_some_iff.mp found
  obtain ⟨low, high, there⟩ := List.mem_zipIdx inside
  exact ⟨rfl, low, by omega, rule, by simp [there], said⟩

theorem askAll_findings [Libraries] (done : List Row) (row : Row) (i place : Nat) (rules : List Rule) :
    (askAll done row i place rules).map (·.finding) = (rules.map check).filterMap (·.ask done row i) := by
  induction rules generalizing place with
  | nil => rfl
  | cons rule rest ih =>
    rw [askAll_cons, List.map_append, ih, List.map_cons, List.filterMap_cons]
    cases rule.check.ask done row i <;> rfl

theorem askAll_ordered [Libraries] : (askAll done row i place rules).Pairwise fun a b => a.row = b.row ∧ a.place < b.place := by
  have numbers : (rules.zipIdx place).Pairwise fun a b => a.2 < b.2 := by
    refine List.pairwise_map.mp ?_
    rw [List.zipIdx_map_snd]
    exact List.pairwise_lt_range'
  refine List.Pairwise.filterMap _ ?_ numbers
  intro a b less m first n second
  obtain ⟨_, _, rfl⟩ := Option.map_eq_some_iff.mp first
  obtain ⟨_, _, rfl⟩ := Option.map_eq_some_iff.mp second
  exact ⟨rfl, less⟩

theorem askAll_split [Libraries] (done : List Row) (row : Row) (i : Nat) (rule : Rule) (before after : List Rule) :
    askAll done row i 0 (before ++ rule :: after) = askAll done row i 0 before ++
      (((rule.check.ask done row i).map (⟨i, before.length, ·⟩)).toList ++
        askAll done row i (before.length + 1) after) := by
  rw [askAll_append, askAll_cons, Nat.zero_add]

-- Places tell the rules apart.
theorem askAll_before [Libraries] {m : Remark} (member : m ∈ askAll done row i 0 rules) : m.place ≠ rules.length := by
  have low := (mem_askAll member).2.2.1
  omega

theorem askAll_past [Libraries] {m : Remark} (member : m ∈ askAll done row i (place + 1) rules) : m.place ≠ place := by
  have high := (mem_askAll member).2.1
  omega

theorem askAll_here [Libraries] (done : List Row) (row : Row) (i : Nat) (rule : Rule) (before after : List Rule) :
    (askAll done row i 0 (before ++ rule :: after)).filter (·.place == before.length) =
      ((rule.check.ask done row i).map (⟨i, before.length, ·⟩)).toList := by
  have earlier : (askAll done row i 0 before).filter (·.place == before.length) = [] :=
    List.filter_eq_nil_iff.mpr fun m member here => askAll_before member (eq_of_beq here)
  have later : (askAll done row i (before.length + 1) after).filter (·.place == before.length) = [] :=
    List.filter_eq_nil_iff.mpr fun m member here => askAll_past member (eq_of_beq here)
  rw [askAll_split, List.filter_append, List.filter_append, earlier, later, List.nil_append, List.append_nil]
  cases rule.check.ask done row i <;> simp

theorem askAll_others [Libraries] (done : List Row) (row : Row) (i : Nat) (rule : Rule) (before after : List Rule) :
    ((askAll done row i 0 (before ++ rule :: after)).filter (·.place != before.length)).map (·.finding) =
      (askAll done row i 0 (before ++ after)).map (·.finding) := by
  have earlier : (askAll done row i 0 before).filter (·.place != before.length) = askAll done row i 0 before :=
    List.filter_eq_self.mpr fun m member => bne_iff_ne.mpr (askAll_before member)
  have later : (askAll done row i (before.length + 1) after).filter (·.place != before.length) =
      askAll done row i (before.length + 1) after :=
    List.filter_eq_self.mpr fun m member => bne_iff_ne.mpr (askAll_past member)
  have here : (((rule.check.ask done row i).map (⟨i, before.length, ·⟩ : Finding → Remark)).toList.filter
      (·.place != before.length)) = [] := by
    cases rule.check.ask done row i <;> simp
  rw [askAll_split, List.filter_append, List.filter_append, earlier, here, later, List.nil_append, List.map_append,
    askAll_findings, askAll_findings, ← List.filterMap_append, ← List.map_append, askAll_findings]

end

section
variable {rules : List Rule} {rows : List Row} {m : Remark}

-- All rules before one row: none of them touches what another one remembers.
theorem lookAll_knows [Libraries] {watches : List Watch} {done : List Row} (knows : ∀ w ∈ watches, w.Knows done) (row : Row)
    (i place : Nat) : (lookAll row i place watches).1 = askAll done row i place (watches.map (·.rule)) ∧
      (lookAll row i place watches).2.map (·.rule) = watches.map (·.rule) ∧
      ∀ w ∈ (lookAll row i place watches).2, w.Knows (done ++ [row]) := by
  induction watches generalizing place with
  | nil => exact ⟨rfl, rfl, nofun⟩
  | cons w rest ih =>
    obtain ⟨here, others⟩ := List.forall_mem_cons.mp knows
    obtain ⟨said, rule, later⟩ := look_knows here row i
    obtain ⟨saidAfter, rulesAfter, laterAll⟩ := ih others (place + 1)
    rw [List.map_cons, askAll_cons, ← said, ← saidAfter]
    refine ⟨rfl, ?_, List.forall_mem_cons.mpr ⟨later, laterAll⟩⟩
    rw [← rule, ← rulesAfter]
    rfl

theorem lookOver_cons [Libraries] (watches : List Watch) (n : Dedupe.Numbered) (rest : List Dedupe.Numbered) :
    lookOver watches (n :: rest) =
      (lookAll n.1 n.2 0 watches).1 ++ lookOver (lookAll n.1 n.2 0 watches).2 rest := rfl

theorem lookOver_asks [Libraries] {watches : List Watch} {done : List Row} (knows : ∀ w ∈ watches, w.Knows done)
    (left : List Row) : lookOver watches (left.zipIdx done.length) =
      (left.zipIdx done.length).flatMap fun n =>
        askAll ((done ++ left).take n.2) n.1 n.2 0 (watches.map (·.rule)) := by
  induction left generalizing watches done with
  | nil => rfl
  | cons row left ih =>
    obtain ⟨said, same, later⟩ := lookAll_knows knows row done.length 0
    have before : (done ++ row :: left).take done.length = done := by simp
    have rest := ih later
    rw [List.length_append, List.length_singleton, List.append_assoc, List.singleton_append, same] at rest
    rw [List.zipIdx_cons, List.flatMap_cons, lookOver_cons, before, said, rest]

theorem remarks_eq [Libraries] (rules : List Rule) (rows : List Row) : remarks rules rows =
    rows.zipIdx.flatMap fun n => askAll (rows.take n.2) n.1 n.2 0 rules := by
  have knows : ∀ w ∈ rules.map fun rule => (⟨rule, []⟩ : Watch), w.Knows [] := by
    intro w member
    obtain ⟨rule, _, rfl⟩ := List.mem_map.mp member
    exact start_knows rule
  have same : (rules.map fun rule => (⟨rule, []⟩ : Watch)).map (·.rule) = rules := by
    rw [List.map_map]
    exact List.map_id rules
  have asks := lookOver_asks knows rows
  rw [same] at asks
  exact asks

theorem remarks_findings [Libraries] (rules : List Rule) (rows : List Row) :
    (remarks rules rows).map (·.finding) = checkRows rules rows := by
  rw [remarks_eq, List.map_flatMap]
  unfold checkRows
  simp only [askAll_findings]

theorem remarks_ordered [Libraries] (rules : List Rule) (rows : List Row) : (remarks rules rows).Pairwise fun a b =>
    a.row < b.row ∨ a.row = b.row ∧ a.place < b.place := by
  rw [remarks_eq, List.pairwise_flatMap]
  constructor
  · intro n _
    exact askAll_ordered.imp .inr
  · refine (ordered_zipIdx rows 0).imp fun {n k} less a first b second => .inl ?_
    rw [(mem_askAll first).1, (mem_askAll second).1]
    exact less

theorem remarks_placed [Libraries] (member : m ∈ remarks rules rows) : ∃ rule row, rules[m.place]? = some rule ∧
    rows[m.row]? = some row ∧ m.finding.row = some m.row ∧ m.finding.code ∈ rule.codes := by
  rw [remarks_eq] at member
  obtain ⟨n, inside, member⟩ := List.mem_flatMap.mp member
  obtain ⟨about, _, _, rule, there, said⟩ := mem_askAll member
  obtain ⟨row, code⟩ := ask_finding said
  exact ⟨rule, n.1, there, about ▸ mem_zipIdx_iff.mp inside, about ▸ row, code⟩

theorem contributed_alone [Libraries] {p : Nat} {rule : Rule} (there : rules[p]? = some rule) (rows : List Row) :
    contributed rules rows p = checkRows [rule] rows := by
  obtain ⟨inside, here⟩ := List.getElem?_eq_some_iff.mp there
  have split : rules = rules.take p ++ rule :: rules.drop (p + 1) := by
    rw [← here, ← List.drop_eq_getElem_cons inside, List.take_append_drop]
  have place : (rules.take p).length = p := List.length_take_of_le (Nat.le_of_lt inside)
  unfold contributed checkRows
  rw [remarks_eq, List.filter_flatMap, List.map_flatMap]
  congr 1
  funext n
  have one := askAll_here (rows.take n.2) n.1 n.2 rule (rules.take p) (rules.drop (p + 1))
  rw [← split, place] at one
  rw [one]
  cases said : rule.check.ask (rows.take n.2) n.1 n.2 <;> simp [said]

theorem contributed_absent [Libraries] {p : Nat} (absent : rules[p]? = none) (rows : List Row) : contributed rules rows p = [] := by
  refine List.map_eq_nil_iff.mpr (List.filter_eq_nil_iff.mpr fun m member here => ?_)
  obtain ⟨rule, _, there, _⟩ := remarks_placed member
  rw [eq_of_beq here, absent] at there
  cases there

theorem remarks_without [Libraries] (before after : List Rule) (rule : Rule) (rows : List Row) :
    ((remarks (before ++ rule :: after) rows).filter (·.place != before.length)).map (·.finding) =
      checkRows (before ++ after) rows := by
  rw [← remarks_findings, remarks_eq, remarks_eq, List.filter_flatMap, List.map_flatMap, List.map_flatMap]
  simp only [askAll_others]

end

-- How the findings of some rules about some rows come about.
structure Independent [Libraries] (rules : List Rule) (rows : List Row) : Prop where
  -- one pass in which every rule has a memory of its own finds all
  pass : (remarks rules rows).map (·.finding) = checkRows rules rows
  placed : ∀ m ∈ remarks rules rows, ∃ rule row, rules[m.place]? = some rule ∧ rows[m.row]? = some row ∧
    m.finding.row = some m.row ∧ m.finding.code ∈ rule.codes
  -- row by row, for each row in the order of the rules, and each rule says one thing of a row at most
  ordered : (remarks rules rows).Pairwise fun a b => a.row < b.row ∨ a.row = b.row ∧ a.place < b.place
  -- a rule finds what it finds alone, whatever the others are
  alone : ∀ p rule, rules[p]? = some rule → contributed rules rows p = checkRows [rule] rows
  others : ∀ rules' p q, rules[p]? = rules'[q]? → contributed rules rows p = contributed rules' rows q
  -- without one of the rules, the findings of the others stay as they are and in their order
  without : ∀ before rule after, rules = before ++ rule :: after →
    ((remarks rules rows).filter (·.place != before.length)).map (·.finding) = checkRows (before ++ after) rows

theorem rules_independent [Libraries] (rules : List Rule) (rows : List Row) : Independent rules rows := by
  refine ⟨remarks_findings rules rows, fun m member => remarks_placed member, remarks_ordered rules rows,
    fun p rule there => contributed_alone there rows, fun rules' p q same => ?_, ?_⟩
  · cases there : rules[p]? with
    | none => rw [contributed_absent there, contributed_absent (same.symm.trans there)]
    | some rule => rw [contributed_alone there, contributed_alone (same.symm.trans there)]
  · rintro before rule after rfl
    exact remarks_without before after rule rows

end TidyRows.Rule
