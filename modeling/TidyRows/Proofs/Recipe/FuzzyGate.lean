import TidyRows.Proofs.Dedupe.Books
import TidyRows.Proofs.Execution
namespace TidyRows

def stages [Libraries] (options : RunOptions) (threshold : Double) : List Step → List Row → List Outcome
  | [], _ => []
  | step :: rest, rows =>
    let after := step.apply options threshold rows
    after :: stages options threshold rest after.rows

-- The findings of a preview, apart for each step.
def Recipe.findingsByStep [Libraries] (recipe : Recipe) (options : RunOptions) (threshold : Double) (rows : List Row) :
    List (List Finding) :=
  (stages options threshold recipe.steps rows).map (·.findings)

def Dedupe.withoutFuzzy (d : Dedupe) : Dedupe := { d with fuzzy := none }

def Step.withoutFuzzy : Step → Step
  | .dedupe d => .dedupe d.withoutFuzzy
  | step => step

def Recipe.withoutFuzzy (recipe : Recipe) : Recipe := { recipe with steps := recipe.steps.map (·.withoutFuzzy) }

def Step.asksFuzzy : Step → Bool
  | .dedupe d => d.fuzzy.any (·.enabled)
  | _ => false

def Step.notice (step : Step) : List Finding := if step.asksFuzzy then [Dedupe.blockedFinding] else []

def Outcome.tell (o : Outcome) (more : List Finding) : Outcome := { o with findings := o.findings ++ more }

section
variable {options : RunOptions} {threshold other : Double}

theorem stages_length [Libraries] (steps : List Step) (rows : List Row) :
    (stages options threshold steps rows).length = steps.length := by
  induction steps generalizing rows with
  | nil => rfl
  | cons step rest ih => rw [stages, List.length_cons, List.length_cons, ih]

theorem foldl_findings [Libraries] (steps : List Step) (o : Outcome) :
    (steps.foldl (Outcome.next options threshold) o).findings =
      o.findings ++ ((stages options threshold steps o.rows).map (·.findings)).flatten := by
  induction steps generalizing o with
  | nil => exact (List.append_nil _).symm
  | cons step rest ih =>
    rw [List.foldl_cons, ih, stages, List.map_cons, List.flatten_cons, ← List.append_assoc]
    rfl

theorem preview_findings [Libraries] (recipe : Recipe) (rows : List Row) :
    (recipe.preview options threshold rows).findings = (recipe.findingsByStep options threshold rows).flatten := by
  rw [preview_eq, foldl_findings]
  rfl

theorem stages_step [Libraries] {steps : List Step} {rows : List Row} {i : Nat} {step : Step} (there : steps[i]? = some step) :
    ∃ before, (stages options threshold steps rows)[i]? = some (step.apply options threshold before) := by
  induction steps generalizing rows i with
  | nil => cases there
  | cons first rest ih =>
    cases i with
    | zero =>
      cases there
      exact ⟨rows, rfl⟩
    | succ i =>
      rw [List.getElem?_cons_succ] at there
      rw [stages, List.getElem?_cons_succ]
      exact ih there

theorem gate_closed (d : Dedupe) :
    d.gate ⟨false⟩ = if d.fuzzy.any (·.enabled) then .blocked else .off := by
  unfold Dedupe.gate
  cases d.fuzzy with
  | none => rfl
  | some f => cases enabled : f.enabled <;> simp [enabled, Option.filter]

-- Neither the threshold nor the measure of likeness comes into a step that is blocked.
theorem Dedupe.apply_blocked (d : Dedupe) (rows : List Row) : d.apply ⟨false⟩ threshold rows =
    (d.withoutFuzzy.apply options other rows).tell (Step.dedupe d).notice := by
  have closed := gate_closed d
  have off : d.withoutFuzzy.gate options = .off := rfl
  unfold Dedupe.apply Dedupe.applyWith
  rw [closed, off]
  cases asks : d.fuzzy.any (·.enabled) with
  | false => simp [Step.notice, Step.asksFuzzy, asks, Outcome.tell, Dedupe.withoutFuzzy]
  | true => simp [Step.notice, Step.asksFuzzy, asks, Outcome.tell, Dedupe.withoutFuzzy]

theorem Step.apply_blocked [Libraries] (step : Step) (rows : List Row) : step.apply ⟨false⟩ threshold rows =
    (step.withoutFuzzy.apply options other rows).tell step.notice := by
  cases step with
  | dedupe d => exact d.apply_blocked rows
  | _ => simp [Step.apply, Step.withoutFuzzy, Outcome.tell, Step.notice, Step.asksFuzzy]

theorem stages_blocked [Libraries] (steps : List Step) (rows : List Row) : stages ⟨false⟩ threshold steps rows =
    List.zipWith (fun step o => o.tell step.notice) steps (stages options other (steps.map (·.withoutFuzzy)) rows) := by
  induction steps generalizing rows with
  | nil => rfl
  | cons step rest ih =>
    rw [List.map_cons, stages, stages, List.zipWith_cons_cons, step.apply_blocked rows]
    congr 1
    exact ih _

variable (options threshold other) in
-- Rows and changes go the same way, step by step.
theorem foldl_blocked [Libraries] (steps : List Step) {o plain : Outcome} (rows : o.rows = plain.rows)
    (changes : o.changes = plain.changes) :
    (steps.foldl (Outcome.next ⟨false⟩ threshold) o).rows =
        ((steps.map (·.withoutFuzzy)).foldl (Outcome.next options other) plain).rows ∧
      (steps.foldl (Outcome.next ⟨false⟩ threshold) o).changes =
        ((steps.map (·.withoutFuzzy)).foldl (Outcome.next options other) plain).changes := by
  induction steps generalizing o plain with
  | nil => exact ⟨rows, changes⟩
  | cons step rest ih =>
    rw [List.map_cons, List.foldl_cons, List.foldl_cons]
    have same : step.apply ⟨false⟩ threshold o.rows =
        (step.withoutFuzzy.apply options other plain.rows).tell step.notice := by rw [rows, step.apply_blocked]
    refine ih ?_ ?_
    · rw [Outcome.next, same]
      rfl
    · rw [Outcome.next, same, changes]
      rfl

theorem withoutFuzzy_exact (d : Dedupe) (rows : List Row) :
    ∀ f ∈ (d.withoutFuzzy.apply options threshold rows).findings, f.code = .dedupeExact := by
  intro f member
  obtain ⟨j, _, said⟩ := List.mem_filterMap.mp
    (show f ∈ Dedupe.exactFindings d.keys (Dedupe.exactPhase d.keys rows.zipIdx) from member)
  obtain ⟨_, _, rfl⟩ := Option.map_eq_some_iff.mp said
  rfl

end

-- What a preview that may not match fuzzily shows, beside one of the recipe that does not ask for it.
structure FailSafe [Libraries] (recipe : Recipe) (options : RunOptions) (threshold other : Double) (rows : List Row) : Prop where
  sameRows : (recipe.preview ⟨false⟩ threshold rows).rows = (recipe.withoutFuzzy.preview options other rows).rows
  sameChanges : (recipe.preview ⟨false⟩ threshold rows).changes =
    (recipe.withoutFuzzy.preview options other rows).changes
  everyStep : (recipe.withoutFuzzy.findingsByStep options other rows).length = recipe.steps.length
  plainFindings : (recipe.withoutFuzzy.preview options other rows).findings =
    (recipe.withoutFuzzy.findingsByStep options other rows).flatten
  -- those of a step that drops rows are about equal ones
  aboutEqual : ∀ (i : Nat) d findings, recipe.steps[i]? = some (.dedupe d) →
    (recipe.withoutFuzzy.findingsByStep options other rows)[i]? = some findings → ∀ f ∈ findings, f.code = .dedupeExact
  -- the same findings, with one more right behind those of each step that asks for fuzzy matching
  oneMore : (recipe.preview ⟨false⟩ threshold rows).findings =
    (List.zipWith (fun step findings => findings ++ if step.asksFuzzy then [Dedupe.blockedFinding] else [])
      recipe.steps (recipe.withoutFuzzy.findingsByStep options other rows)).flatten
  whatItSays : ∃ message, Dedupe.blockedFinding.toValue =
    .record [("rowIndex", .ofInt (-1)), ("code", .text "dedupe_fuzzy_blocked"), ("message", .text message)]

-- Without leave a run comes to what it comes to without the wish.
theorem blocked_fuzzy_harmless [Libraries] (recipe : Recipe) (options : RunOptions) (threshold other : Double) (rows : List Row) :
    FailSafe recipe options threshold other rows := by
  obtain ⟨sameRows, sameChanges⟩ := foldl_blocked options threshold other recipe.steps
    (rfl : (Outcome.start rows).rows = _) rfl
  refine ⟨?_, ?_, ?_, preview_findings _ _, ?_, ?_, _, rfl⟩
  · rw [preview_eq, preview_eq]
    exact sameRows
  · rw [preview_eq, preview_eq]
    exact sameChanges
  · rw [Recipe.findingsByStep, List.length_map, stages_length]
    exact List.length_map _
  · intro i d findings there told
    have plain : recipe.withoutFuzzy.steps[i]? = some (.dedupe d.withoutFuzzy) := by
      rw [Recipe.withoutFuzzy, List.getElem?_map, there]
      rfl
    obtain ⟨before, stage⟩ := stages_step plain
    rw [Recipe.findingsByStep, List.getElem?_map, stage] at told
    cases told
    exact withoutFuzzy_exact d before
  · rw [preview_findings, Recipe.findingsByStep, stages_blocked, Recipe.findingsByStep, List.map_zipWith,
      List.zipWith_map_right]
    rfl

end TidyRows
