import TidyRows.Handler.Basic
import TidyRows.Step.Dedupe
import TidyRows.Step.Format
import TidyRows.Step.Mapping
import TidyRows.Step.Validate
namespace TidyRows

def Step.apply [Libraries] (options : RunOptions) (threshold : Double) (rows : List Row) : Step → Outcome
  | .mapColumns c => ⟨c.apply rows, [], []⟩
  | .format transforms =>
    let (formatted, changes) := FieldTransform.formatRows transforms rows
    ⟨formatted, [], changes⟩
  | .validate rules => ⟨rows, Rule.checkRows rules rows, []⟩
  | .dedupe d => d.apply options threshold rows
  | .writeBack _ => ⟨rows, [], []⟩

namespace Outcome

def start (rows : List Row) : Outcome := ⟨rows, [], []⟩

def next [Libraries] (options : RunOptions) (threshold : Double) (o : Outcome) (step : Step) : Outcome :=
  let after := step.apply options threshold o.rows
  ⟨after.rows, o.findings ++ after.findings, o.changes ++ after.changes⟩

end Outcome

inductive RunMode (σ : Type) where
  | preview
  | execute (handler : Handler σ)

def Step.write (mode : RunMode σ) (rows : List Row) (step : Step) (s : σ) : Except Fault Unit × σ :=
  match step, mode with
  | .writeBack target, .execute handler => match target.ready with
    | .ok _ => handler ⟨rows, target⟩ s
    | .error fault => (.error fault, s)
  | _, _ => (.ok (), s)

def runSteps [Libraries] (options : RunOptions) (threshold : Double) (mode : RunMode σ) :
    List Step → Outcome → σ → Except Fault Outcome × σ
  | [], o, s => (.ok o, s)
  | step :: rest, o, s =>
    match step.write mode o.rows s with
    | (.ok _, s) => runSteps options threshold mode rest (o.next options threshold step) s
    | (.error fault, s) => (.error fault, s)

def Recipe.run [Libraries] (recipe : Recipe) (options : RunOptions) (threshold : Double) (mode : RunMode σ)
    (rows : List Row) (s : σ) : Except Fault Outcome × σ :=
  runSteps options threshold mode recipe.steps (.start rows) s

-- Only writing can fail, and a preview writes nothing.
theorem runSteps_preview [Libraries] (options : RunOptions) (threshold : Double) (steps : List Step) (o : Outcome) (s : σ) :
    runSteps options threshold .preview steps o s = (.ok (steps.foldl (Outcome.next options threshold) o), s) := by
  induction steps generalizing o with
  | nil => rfl
  | cons step rest ih =>
    have unwritten : step.write (.preview : RunMode σ) o.rows s = (.ok (), s) := by cases step <;> rfl
    rw [runSteps, unwritten]
    exact ih _

def Recipe.preview [Libraries] (recipe : Recipe) (options : RunOptions) (threshold : Double) (rows : List Row) : Outcome :=
  (recipe.run options threshold .preview rows ()).1.toOption.get (by rw [Recipe.run, runSteps_preview]; rfl)

structure ExecutionReport where
  processed : Nat
  -- Rows at the end, whatever became of them
  written : Nat
  findings : List Finding

def Recipe.execute [Libraries] (recipe : Recipe) (options : RunOptions) (threshold : Double) (handler : Handler σ)
    (rows : List Row) (s : σ) : Except Fault ExecutionReport × σ :=
  let (r, s) := recipe.run options threshold (.execute handler) rows s
  (r.map fun o => ⟨rows.length, o.rows.length, o.findings⟩, s)

def Outcome.toValue (o : Outcome) : Value :=
  .record [("rows", .list (o.rows.map Keyed.toValue)), ("errors", .list (o.findings.map Finding.toValue)),
    ("diff", .list (o.changes.map Change.toValue))]

def ExecutionReport.toValue (r : ExecutionReport) : Value :=
  .record [("rowsProcessed", .ofNat r.processed), ("rowsWritten", .ofNat r.written),
    ("errors", .list (r.findings.map Finding.toValue))]

end TidyRows
