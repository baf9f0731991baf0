import TidyRows.Proofs.Dedupe.Again
import TidyRows.Proofs.Dedupe.Signature
namespace TidyRows.Dedupe

-- The rows whose signature is not met for the first time.
def metAgain (keys : List String) (met : List String) : List Numbered → List Nat
  | [] => []
  | n :: rest =>
    match keySignature keys n.1 with
    | none => metAgain keys met rest
    | some s => if s ∈ met then n.2 :: metAgain keys met rest else metAgain keys (met ++ [s]) rest

section
variable {keys : List String} {met : List String} {n : Numbered} {rest : List Numbered} {s : String}

theorem metAgain_blank (blank : keySignature keys n.1 = none) :
    metAgain keys met (n :: rest) = metAgain keys met rest := by
  rw [metAgain, blank]

theorem metAgain_old (has : keySignature keys n.1 = some s) (old : s ∈ met) :
    metAgain keys met (n :: rest) = n.2 :: metAgain keys met rest := by
  rw [metAgain, has]
  exact if_pos old

theorem metAgain_new (has : keySignature keys n.1 = some s) (new : s ∉ met) :
    metAgain keys met (n :: rest) = metAgain keys (met ++ [s]) rest := by
  rw [metAgain, has]
  exact if_neg new

end

-- The first phase: the signatures that it has met are those of the rows that it holds others against.

theorem firstLike_none {s : String} {kept : List (Numbered × String)} :
    firstLike sameSignature s kept = none ↔ s ∉ kept.map (·.2) := by
  unfold firstLike sameSignature
  simp only [List.findSome?_eq_none_iff, Option.map_eq_none_iff, List.mem_map, not_exists, not_and]
  constructor
  · intro unlike entry member same
    have := unlike entry member
    simp [same] at this
  · intro absent entry member
    simpa using Ne.symm (absent entry member)

theorem gone_kept (n : Numbered) (judged : List (Judged α)) : gone (⟨n, none⟩ :: judged) = gone judged := rfl

theorem gone_dropped (n : Numbered) (found : Numbered × α) (judged : List (Judged α)) :
    gone (⟨n, some found⟩ :: judged) = n.2 :: gone judged := rfl

theorem pass_metAgain (keys : List String) (kept : List (Numbered × String)) (rows : List Numbered) :
    gone (pass (keySignature keys) sameSignature kept rows) = metAgain keys (kept.map (·.2)) rows := by
  induction rows generalizing kept with
  | nil => rfl
  | cons n rest ih =>
    unfold pass
    cases has : keySignature keys n.1 with
    | none => simp only [gone_kept, ih, metAgain_blank has]
    | some s =>
      cases found : firstLike sameSignature s kept with
      | none => simp [found, gone_kept, ih, metAgain_new has (firstLike_none.mp found)]
      | some first =>
        have old : s ∈ kept.map (·.2) := by
          apply Decidable.of_not_not
          intro new
          simp [firstLike_none.mpr new] at found
        simp [found, gone_dropped, ih, metAgain_old has old]

-- The rule: it asks about a signature among all rows before, and those that are met are their signatures.

def Remembers (keys : List String) (met : List String) (done : List Row) : Prop :=
  ∀ s, s ∈ met ↔ ∃ r ∈ done, keySignature keys r = some s

section
variable {keys : List String} (message : Option String) {met : List String} {done : List Row} {row : Row} {s : String}

theorem Remembers.start : Remembers keys [] [] := by
  intro s
  simp

theorem Remembers.blank (knows : Remembers keys met done) (blank : keySignature keys row = none) :
    Remembers keys met (done ++ [row]) := by
  intro s
  simp [knows s, blank]

theorem Remembers.old (knows : Remembers keys met done) (has : keySignature keys row = some s) (old : s ∈ met) :
    Remembers keys met (done ++ [row]) := by
  intro other
  simp only [List.mem_append, List.mem_singleton]
  constructor
  · intro member
    obtain ⟨r, inside, same⟩ := (knows other).mp member
    exact ⟨r, .inl inside, same⟩
  · intro ⟨r, inside, same⟩
    cases inside with
    | inl before => exact (knows other).mpr ⟨r, before, same⟩
    | inr here =>
      cases here
      cases has.symm.trans same
      exact old

theorem Remembers.new (knows : Remembers keys met done) (has : keySignature keys row = some s) :
    Remembers keys (met ++ [s]) (done ++ [row]) := by
  intro other
  simp only [List.mem_append, List.mem_singleton, knows other]
  constructor
  · intro member
    cases member with
    | inl before =>
      obtain ⟨r, inside, same⟩ := before
      exact ⟨r, .inl inside, same⟩
    | inr here => exact ⟨row, .inr rfl, here ▸ has⟩
  · intro ⟨r, inside, same⟩
    cases inside with
    | inl before => exact .inl ⟨r, before, same⟩
    | inr here =>
      cases here
      cases has.symm.trans same
      exact .inr rfl

theorem ask_unmet [Libraries] (knows : Remembers keys met done) (unmet : ∀ s, keySignature keys row = some s → s ∉ met) (i : Nat) :
    (Rule.unique keys message).check.ask done row i = none := by
  apply Option.eq_none_iff_forall_ne_some.mpr
  intro f asked
  obtain ⟨_, s, has, seen⟩ := unique_ask.mp ⟨f, asked, (Rule.ask_finding asked).1⟩
  exact unmet s has ((knows s).mpr seen)

theorem ask_met [Libraries] (knows : Remembers keys met done) (has : keySignature keys row = some s) (old : s ∈ met) (i : Nat) :
    ∃ f, (Rule.unique keys message).check.ask done row i = some f ∧ f.row = some i :=
  unique_ask.mpr ⟨rfl, s, has, (knows s).mp old⟩

def foundAmong [Libraries] (keys : List String) (message : Option String) (rows : List Row) (among : List Numbered) : List Finding :=
  among.flatMap fun n => ((Rule.unique keys message).check.ask (rows.take n.2) n.1 n.2).toList

theorem checkRows_found [Libraries] (keys : List String) (message : Option String) (rows : List Row) :
    Rule.checkRows [.unique keys message] rows = foundAmong keys message rows rows.zipIdx := by
  unfold Rule.checkRows foundAmong
  congr 1

theorem foundAmong_cons [Libraries] (done left : List Row) (row : Row) :
    foundAmong keys message (done ++ row :: left) ((row :: left).zipIdx done.length) =
      ((Rule.unique keys message).check.ask done row done.length).toList ++
        foundAmong keys message (done ++ [row] ++ left) (left.zipIdx (done ++ [row]).length) := by
  have before : (done ++ row :: left).take done.length = done := by simp
  simp [foundAmong, before]

theorem found_metAgain [Libraries] (left : List Row) (knows : Remembers keys met done) :
    (foundAmong keys message (done ++ left) (left.zipIdx done.length)).map (·.row) =
      (metAgain keys met (left.zipIdx done.length)).map some := by
  induction left generalizing done met with
  | nil => rfl
  | cons row left ih =>
    have size : (done ++ [row]).length = done.length + 1 := by simp
    rw [foundAmong_cons, List.zipIdx_cons, List.map_append]
    cases has : keySignature keys row with
    | none =>
      have unmet : ∀ s, keySignature keys row = some s → s ∉ met := by simp [has]
      rw [ask_unmet message knows unmet, metAgain_blank has, ih (knows.blank has), size]
      rfl
    | some s =>
      by_cases old : s ∈ met
      · obtain ⟨f, asked, named⟩ := ask_met message knows has old done.length
        rw [asked, metAgain_old has old, ih (knows.old has old), size]
        simp [named]
      · have unmet : ∀ other, keySignature keys row = some other → other ∉ met := by
          intro other same
          cases has.symm.trans same
          exact old
        rw [ask_unmet message knows unmet, metAgain_new has old, ih (knows.new has), size]
        rfl

theorem checkRows_gone [Libraries] (keys : List String) (message : Option String) (rows : List Row) :
    (Rule.checkRows [.unique keys message] rows).map (·.row) = (gone (exactPhase keys rows.zipIdx)).map some := by
  have drops : gone (exactPhase keys rows.zipIdx) = metAgain keys [] rows.zipIdx := pass_metAgain keys [] rows.zipIdx
  rw [checkRows_found, drops]
  exact found_metAgain message rows Remembers.start

end

section
variable (score : Similarity → List Char → List Char → Double) (d : Dedupe) (options : RunOptions)
  (defaultThreshold : Double) (message : Option String) (rows : List Row)

theorem applyWith_exact : (d.applyWith score options defaultThreshold rows).findings.filter (·.code == .dedupeExact) =
    exactFindings d.keys (runFirst d rows) := by
  rw [applyWith_findings, List.filter_append, exactFindings_coded]
  cases d.gate options with
  | off => simp
  | blocked => simp [blockedFinding]
  | passed f => simp [fuzzyFindings_coded]

theorem exactFindings_rows (keys : List String) (judged : List (Judged Unit)) :
    (exactFindings keys judged).map (·.row) = (gone judged).map some := by
  unfold exactFindings gone
  rw [findings_dropped, List.map_map, List.map_map]
  rfl

theorem checkRows_kept [Libraries] :
    Rule.checkRows [.unique d.keys message] (d.applyWith score options defaultThreshold rows).rows = [] := by
  apply List.map_eq_nil_iff.mp
  rw [checkRows_gone]
  change (gone (runFirst d (d.applyWith score options defaultThreshold rows).rows)).map some = []
  rw [runFirst_again, gone, dropped_untouched]
  rfl

-- The rule and the step agree: the rows that the one tells of are those that the other calls exact repetitions, in
-- their order, and what the step keeps (by either phase) passes the rule.
theorem unique_agrees [Libraries] :
    (Rule.checkRows [.unique d.keys message] rows).map (·.row) =
      ((d.applyWith score options defaultThreshold rows).findings.filter (·.code == .dedupeExact)).map (·.row) ∧
    Rule.checkRows [.unique d.keys message] (d.applyWith score options defaultThreshold rows).rows = [] := by
  constructor
  · rw [applyWith_exact, exactFindings_rows]
    exact checkRows_gone d.keys message rows
  · exact checkRows_kept score d options defaultThreshold message rows

end

end TidyRows.Dedupe
