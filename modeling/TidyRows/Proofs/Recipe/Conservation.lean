import TidyRows.Handler.Router
import TidyRows.Proofs.Dedupe.Books
import TidyRows.Proofs.Execution
namespace TidyRows

def FindingCode.drops : FindingCode → Bool
  | dedupeExact => true
  | dedupeFuzzy => true
  | _ => false

def droppedRows (findings : List Finding) : Nat := findings.countP (·.code.drops)

def Change.Differs (c : Change) : Prop := c.before.same c.after = false

-- As many rows as there were, less those that the findings tell of; and no change that is none.
structure Outcome.Balanced (o : Outcome) (count : Nat) : Prop where
  rows : o.rows.length + droppedRows o.findings = count
  changes : ∀ c ∈ o.changes, c.Differs

theorem droppedRows_append (first second : List Finding) :
    droppedRows (first ++ second) = droppedRows first + droppedRows second := List.countP_append

theorem between_differs (made : Change.between row field before after = some c) : c.Differs := by
  unfold Change.between at made
  split at made
  · cases made
  · rename_i differ
    cases made
    simpa [Change.Differs] using differ

namespace FieldTransform

theorem writeField_differs (index : Nat) (state : Row × List Change) (update : String × Value)
    (differ : ∀ c ∈ state.2, c.Differs) : ∀ c ∈ (writeField index state update).2, c.Differs := by
  intro c member
  unfold writeField at member
  dsimp only at member
  split at member
  · rename_i change made
    rcases List.mem_append.mp member with old | new
    · exact differ c old
    · rw [List.mem_singleton.mp new]
      exact between_differs made
  · exact differ c member

theorem formatRow_differs [Libraries] (transforms : List FieldTransform) (index : Nat) (row : Row) :
    ∀ c ∈ (formatRow transforms index row).2, c.Differs := by
  apply formatRow_keeps (writeField_differs index)
  intro c none
  cases none

theorem formatRows_balanced [Libraries] (transforms : List FieldTransform) (rows : List Row) :
    (formatRows transforms rows).1.length = rows.length ∧ ∀ c ∈ (formatRows transforms rows).2, c.Differs := by
  refine ⟨by simp [formatRows], ?_⟩
  intro c member
  obtain ⟨formatted, inside, here⟩ := List.mem_flatMap.mp member
  obtain ⟨⟨row, i⟩, _, rfl⟩ := List.mem_map.mp inside
  exact formatRow_differs transforms i row c here

end FieldTransform

namespace Rule

theorem codes_keep (rule : Rule) : ∀ code ∈ rule.codes, code.drops = false := by
  cases rule <;> simp [codes, FindingCode.drops]

theorem checkRows_keeps [Libraries] (rules : List Rule) (rows : List Row) : droppedRows (checkRows rules rows) = 0 := by
  rw [droppedRows, List.countP_eq_zero]
  intro f member
  obtain ⟨⟨row, i⟩, _, found⟩ := List.mem_flatMap.mp member
  obtain ⟨c, inside, said⟩ := List.mem_filterMap.mp found
  obtain ⟨rule, _, rfl⟩ := List.mem_map.mp inside
  simp [codes_keep rule f.code (ask_finding said).2]

end Rule

namespace Dedupe

theorem changes_differ (judged : List (Judged α)) : ∀ c ∈ changes judged, c.Differs := by
  intro c member
  obtain ⟨j, _, made⟩ := List.mem_filterMap.mp member
  obtain ⟨⟨k, likeness⟩, _, made⟩ := Option.bind_eq_some_iff.mp made
  exact between_differs made

theorem findings_drop {tell : Nat → Nat → α → Finding} (drops : ∀ i k u, (tell i k u).code.drops = true)
    (judged : List (Judged α)) : droppedRows (findings tell judged) = (gone judged).length := by
  rw [findings_dropped, droppedRows, List.countP_eq_length.mpr, gone, List.length_map, List.length_map]
  intro f member
  obtain ⟨p, _, rfl⟩ := List.mem_map.mp member
  exact drops _ _ _

theorem apply_drops (d : Dedupe) (options : RunOptions) (threshold : Double) (rows : List Row) :
    droppedRows (d.apply options threshold rows).findings =
      (gone (runFirst d rows)).length + (gone (runSecond Similarity.score d options threshold rows)).length := by
  have exact : droppedRows (exactFindings d.keys (runFirst d rows)) = (gone (runFirst d rows)).length :=
    findings_drop (fun _ _ _ => rfl) _
  rw [Dedupe.apply, applyWith_findings, droppedRows_append, exact]
  congr 1
  cases gate : d.gate options with
  | passed f => exact findings_drop (fun _ _ _ => rfl) _
  | _ =>
    rw [runSecond, second_untouched Similarity.score d options threshold _ (by rw [gate]; nofun), gone,
      dropped_untouched]
    rfl

theorem apply_balanced (d : Dedupe) (options : RunOptions) (threshold : Double) (rows : List Row) :
    (d.apply options threshold rows).Balanced rows.length := by
  have places := (run_phases Similarity.score d options threshold rows).places.length_eq
  rw [List.length_append, List.length_append, List.length_map, List.length_range] at places
  constructor
  · rw [apply_drops, Dedupe.apply, run_rows, List.length_map, ← places, Nat.add_assoc]
  · intro c member
    rw [Dedupe.apply, run_changes] at member
    exact (List.mem_append.mp member).elim (changes_differ _ c) (changes_differ _ c)

end Dedupe

section
variable (options : RunOptions) (threshold : Double)

theorem Step.apply_balanced [Libraries] (step : Step) (rows : List Row) :
    (step.apply options threshold rows).Balanced rows.length := by
  cases step with
  | mapColumns c => exact ⟨by simp [Step.apply, ColumnMapping.apply, droppedRows], by simp [Step.apply]⟩
  | format transforms =>
    obtain ⟨length, differ⟩ := FieldTransform.formatRows_balanced transforms rows
    exact ⟨length, differ⟩
  | validate rules =>
    refine ⟨?_, by simp [Step.apply]⟩
    rw [Step.apply, Rule.checkRows_keeps, Nat.add_zero]
  | dedupe d => exact d.apply_balanced options threshold rows
  | writeBack target => exact ⟨rfl, by simp [Step.apply]⟩

theorem Outcome.next_balanced [Libraries] {o : Outcome} (balanced : o.Balanced count) (step : Step) :
    (o.next options threshold step).Balanced count := by
  obtain ⟨rows, changes⟩ := step.apply_balanced options threshold o.rows
  constructor
  · have before := balanced.rows
    simp only [Outcome.next, droppedRows_append]
    omega
  · intro c member
    exact (List.mem_append.mp member).elim (balanced.changes c) (changes c)

theorem foldl_balanced [Libraries] (steps : List Step) {o : Outcome} (balanced : o.Balanced count) :
    (steps.foldl (Outcome.next options threshold) o).Balanced count := by
  induction steps generalizing o with
  | nil => exact balanced
  | cons step rest ih => exact ih (Outcome.next_balanced options threshold balanced step)

theorem preview_balanced [Libraries] (recipe : Recipe) (rows : List Row) :
    (recipe.preview options threshold rows).Balanced rows.length := by
  rw [preview_eq]
  exact foldl_balanced options threshold recipe.steps ⟨rfl, by simp [Outcome.start]⟩

variable {options threshold}

-- What a run of either kind has come to when it ends well is what a preview shows.
theorem run_previewed [Libraries] {recipe : Recipe} {mode : RunMode σ} {rows : List Row} {s after : σ} {o : Outcome}
    (ran : recipe.run options threshold mode rows s = (.ok o, after)) :
    o = recipe.preview options threshold rows := by
  rw [preview_eq]
  cases mode with
  | preview =>
    rw [Recipe.run, runSteps_preview] at ran
    cases ran
    rfl
  | execute handler =>
    rw [Recipe.run, runSteps_execute] at ran
    split at ran
    · cases ran
      rfl
    · cases ran

end

structure Conservation [Libraries] (recipe : Recipe) (options : RunOptions) (threshold : Double) (rows : List Row)
    (handler : Handler σ) (s : σ) : Prop where
  preview : (recipe.preview options threshold rows).rows.length +
    droppedRows (recipe.preview options threshold rows).findings = rows.length
  -- an execution that ends well tells in its findings of each row that it has not written
  execute : ∀ report after, recipe.execute options threshold handler rows s = (.ok report, after) →
    report.processed = rows.length ∧ report.written ≤ report.processed ∧
      report.processed - report.written = droppedRows report.findings
  -- a change of a run of either kind is one between different values
  changes : ∀ mode : RunMode σ, ∀ o after, recipe.run options threshold mode rows s = (.ok o, after) →
    ∀ c ∈ o.changes, c.before.same c.after = false

-- Whatever the steps, no row comes or goes without a finding.
theorem rows_conserved [Libraries] (recipe : Recipe) (options : RunOptions) (threshold : Double) (rows : List Row)
    (handler : Handler σ) (s : σ) : Conservation recipe options threshold rows handler s := by
  have balanced := preview_balanced options threshold recipe rows
  refine ⟨balanced.rows, ?_, ?_⟩
  · intro report after executed
    have whole := balanced.rows
    rw [Recipe.execute] at executed
    cases ran : recipe.run options threshold (.execute handler) rows s with
    | mk result last =>
      rw [ran] at executed
      cases result with
      | error fault => cases executed
      | ok o =>
        cases executed
        cases run_previewed ran
        dsimp only
        omega
  · intro mode o after ran
    cases run_previewed ran
    exact balanced.changes

-- A name that is written twice, and one that is much like it.
namespace SimilarNames
open Bare

def recipe : Recipe := ⟨"r1", "names", 1, [.format [⟨"name", .trimCollapseWhitespace, none⟩],
  .dedupe ⟨["name"], some ⟨true, none, some .levenshtein⟩⟩, .writeBack ⟨.csvExport, none, none, none, none, none⟩]⟩

def rows : List Row := ["ann", " Ann", "anna", "bob"].map fun name => .ofList [("name", .text name)]

def threshold : Double := .ofRatio false 7 10

theorem similar_names_conserved :
    ∃ report after, recipe.execute ⟨true⟩ threshold Handler.csvExport rows none = (.ok report, after) ∧
      report.findings.map (·.row) = [some 1, some 2] ∧ report.processed = 4 ∧
      report.processed - report.written = droppedRows report.findings := by
  have executed : ∃ report after, recipe.execute ⟨true⟩ threshold Handler.csvExport rows none = (.ok report, after) :=
    ⟨_, _, rfl⟩
  obtain ⟨report, after, ran⟩ := executed
  obtain ⟨processed, _, dropped⟩ :=
    (rows_conserved recipe ⟨true⟩ threshold rows Handler.csvExport none).execute report after ran
  refine ⟨report, after, ran, ?_, processed, dropped⟩
  cases ran
  decide +kernel

end SimilarNames
end TidyRows
