import Mathlib.Data.List.Basic
import TidyRows.Catalog
import TidyRows.Proofs.Execution
namespace TidyRows

-- A write to a board that has no board to go to, or does not know which columns.
structure WriteBack.Lacks (w : WriteBack) : Prop where
  external : w.strategy = .externalUpsert
  lacks : (∀ boardId, w.boardId = some boardId → Text.allBlank boardId.toList = true) ∨ w.columnMapping = none

def Step.Lacks (step : Step) : Prop := ∃ w, step.target? = some w ∧ w.Lacks

def Step.missing (step : Step) : List String := (step.target?.map WriteBack.missing).getD []

section
variable {w : WriteBack} {recipe : Recipe} {step : Step}

theorem missing_nil_iff : w.missing = [] ↔ ¬ w.Lacks := by
  unfold WriteBack.missing
  cases strategy : w.strategy with
  | csvExport =>
    have other : ¬ w.Lacks := fun lacks => by
      have external := lacks.external
      rw [strategy] at external
      cases external
    simp [other]
  | externalUpsert =>
    constructor
    · intro nothing lacks
      obtain ⟨noBoard, noColumns⟩ := List.append_eq_nil_iff.mp nothing
      rcases lacks.lacks with blank | unmapped
      · cases board : w.boardId with
        | none => simp [board] at noBoard
        | some boardId => simp [board, blank boardId board] at noBoard
      · simp [unmapped] at noColumns
    · intro complete
      have board : (w.boardId.map fun b => Text.allBlank b.toList).getD true = false := by
        cases board : w.boardId with
        | none => exact absurd ⟨strategy, .inl (by simp [board])⟩ complete
        | some boardId =>
          cases blank : Text.allBlank boardId.toList with
          | true => exact absurd ⟨strategy, .inl (by simp [board, blank])⟩ complete
          | false => simp [blank]
      have mapped : w.columnMapping.isNone = false := by
        cases mapping : w.columnMapping with
        | none => exact absurd ⟨strategy, .inr mapping⟩ complete
        | some _ => rfl
      simp [board, mapped]

theorem ready_iff : w.ready = .ok () ↔ ¬ w.Lacks := by
  rw [← missing_nil_iff, WriteBack.ready]
  cases w.missing with
  | nil => simp
  | cons => simp

theorem step_missing_nil_iff : step.missing = [] ↔ ¬ step.Lacks := by
  unfold Step.missing Step.Lacks
  cases step.target? with
  | none => simp
  | some w => simp [missing_nil_iff]

theorem incomplete_eq (recipe : Recipe) : recipe.incomplete = recipe.steps.zipIdx.filterMap fun place =>
    if place.1.missing.isEmpty then none else some (place.2, place.1.missing) := by
  unfold Recipe.incomplete
  refine List.filterMap_congr fun place _ => ?_
  obtain ⟨step, i⟩ := place
  cases step <;> rfl

theorem incomplete_nil_iff : recipe.incomplete = [] ↔ ∀ step ∈ recipe.steps, ¬ step.Lacks := by
  rw [incomplete_eq, List.filterMap_eq_nil_iff]
  constructor
  · intro all step member
    obtain ⟨i, found⟩ := List.mem_iff_getElem?.mp member
    have here := all (step, i) (List.mem_zipIdx_iff_getElem?.mpr found)
    refine step_missing_nil_iff.mp ?_
    by_contra some
    simp [some] at here
  · intro none place member
    have complete := none place.1 (List.mem_of_getElem? (List.mem_zipIdx_iff_getElem?.mp member))
    simp [step_missing_nil_iff.mpr complete]

theorem incomplete_first {before after : List Step} (split : recipe.steps = before ++ .writeBack w :: after)
    (lacks : w.Lacks) (first : ∀ step ∈ before, ¬ step.Lacks) :
    ∃ rest, recipe.incomplete = (before.length, w.missing) :: rest := by
  have complete : ({ recipe with steps := before } : Recipe).incomplete = [] := incomplete_nil_iff.mpr first
  have some : w.missing ≠ [] := fun nothing => missing_nil_iff.mp nothing lacks
  rw [incomplete_eq] at complete
  rw [incomplete_eq, split, List.zipIdx_append, List.filterMap_append, complete, List.nil_append, List.zipIdx_cons,
    List.filterMap_cons]
  simp [Step.missing, Step.target?, some]

theorem first_lacking {steps : List Step} (lacking : ∃ step ∈ steps, step.Lacks) : ∃ before w after,
    steps = before ++ .writeBack w :: after ∧ w.Lacks ∧ ∀ step ∈ before, ¬ step.Lacks := by
  induction steps with
  | nil => simp at lacking
  | cons step rest ih =>
    by_cases here : step.Lacks
    · obtain ⟨w, target, lacks⟩ := here
      cases step with
      | writeBack _ => cases target; exact ⟨[], w, rest, rfl, lacks, by simp⟩
      | _ => cases target
    · obtain ⟨other, member, lacks⟩ := lacking
      have later := (List.mem_cons.mp member).resolve_left fun same => here (same ▸ lacks)
      obtain ⟨before, w, after, split, lacks, first⟩ := ih ⟨other, later, lacks⟩
      exact ⟨step :: before, w, after, congrArg (step :: ·) split, lacks, List.forall_mem_cons.mpr ⟨here, first⟩⟩

theorem recipe_ready_iff : recipe.ready = .ok () ↔ ∀ step ∈ recipe.steps, ¬ step.Lacks := by
  rw [← incomplete_nil_iff, Recipe.ready]
  cases recipe.incomplete with
  | nil => simp
  | cons => simp

-- What the recipe as a whole is asked is what each write-back step is asked when its turn comes.
theorem targets_ready (ready : ∀ step ∈ recipe.steps, ¬ step.Lacks) :
    ∀ target ∈ recipe.steps.filterMap (·.target?), target.ready = .ok () := by
  intro target member
  obtain ⟨step, inside, found⟩ := List.mem_filterMap.mp member
  exact ready_iff.mpr fun lacks => ready step inside ⟨target, found, lacks⟩

end

namespace Handler
variable {handler : Handler σ} {calls : List WriteCall}

-- Calls that are taken one after the other, up to the first that fails: what is answered, the handler's state after
-- that, and the calls that have been made.
inductive Ending (handler : Handler σ) (calls : List WriteCall) (s : σ) :
    Except Fault Unit → σ → List WriteCall → Prop where
  | done (accepts : handler.Accepts calls s last) : Ending handler calls s (.ok ()) last calls
  | failed (split : calls = before ++ call :: after) (accepts : handler.Accepts before s last)
      (fails : handler call last = (.error fault, next)) : Ending handler calls s (.error fault) next (before ++ [call])

theorem Ending.first {call : WriteCall} {s next : σ} (fails : handler call s = (.error fault, next)) :
    handler.Ending (call :: calls) s (.error fault) next [call] :=
  (.failed rfl .nil fails : handler.Ending (call :: calls) s (.error fault) next ([] ++ [call]))

theorem Ending.cons {call : WriteCall} {s next last : σ} {result : Except Fault Unit} {made : List WriteCall}
    (ready : call.target.ready = .ok ()) (taken : handler call s = (.ok (), next))
    (ending : handler.Ending calls next result last made) :
    handler.Ending (call :: calls) s result last (call :: made) := by
  cases ending with
  | done accepts => exact .done (.cons ready taken accepts)
  | failed split accepts fails => exact .failed (congrArg (call :: ·) split) (.cons ready taken accepts) fails

theorem ready_ending (handler : Handler σ) (ready : ∀ call ∈ calls, call.target.ready = .ok ()) (s : σ)
    (log : List WriteCall) :
    ∃ result next made, handler.logged.all calls (s, log) = (result, (next, log ++ made)) ∧
      handler.Ending calls s result next made := by
  induction calls generalizing s log with
  | nil => exact ⟨.ok (), s, [], by rw [List.append_nil]; rfl, .done .nil⟩
  | cons call rest ih =>
    have here := ready call (by simp)
    rw [all, here, logged]
    rcases answer : handler call s with ⟨fault | _, next⟩
    · exact ⟨.error fault, next, [call], rfl, .first answer⟩
    · obtain ⟨result, last, made, all, ending⟩ :=
        ih (fun call member => ready call (List.mem_cons_of_mem _ member)) next (log ++ [call])
      exact ⟨result, last, call :: made, by simpa using all, ending.cons here answer⟩

end Handler

structure Preflight [Libraries] (c : Catalog) (recipe : Recipe) (options : RunOptions) (threshold : Double) (rows : List Row)
    (handler : Handler σ) (s : σ) : Prop where
  observed : ∀ log,
    (c.execute recipe options threshold handler.logged rows (s, log)).1 =
      (c.execute recipe options threshold handler rows s).1 ∧
    (c.execute recipe options threshold handler.logged rows (s, log)).2.1 =
      (c.execute recipe options threshold handler rows s).2.1 ∧
    (c.execute recipe options threshold handler.logged rows (s, log)).2.2.1 =
      (c.execute recipe options threshold handler rows s).2.2
  -- a step that is not ready keeps everything from happening, and the first one is named
  unready : (∃ step ∈ recipe.steps, step.Lacks) → ∃ before w after, recipe.steps = before ++ .writeBack w :: after ∧
    w.Lacks ∧ (∀ step ∈ before, ¬ step.Lacks) ∧
    c.execute recipe options threshold handler.logged rows (s, []) =
      (.error (.configuration (.incompleteStep before.length w.missing)), c, (s, []))
  named : ∀ i missing, (Fault.configuration (.incompleteStep i missing)).message =
    "Configuration error: " ++ ("write_back step " ++ String.ofList (natText i) ++ " requires " ++ joinAnd missing)
  ready : (∀ step ∈ recipe.steps, ¬ step.Lacks) → recipe.ready = .ok () ∧
    ∀ target ∈ recipe.steps.filterMap (·.target?), target.ready = .ok ()
  -- after that only the calls decide: all are taken, or the first that fails gives its fault
  decided : (∀ step ∈ recipe.steps, ¬ step.Lacks) → ∃ result next made,
    handler.Ending (recipe.writes options threshold rows) s result next made ∧
    c.execute recipe options threshold handler.logged rows (s, []) = match result with
      | .ok _ => (.ok ⟨rows.length, (recipe.preview options threshold rows).rows.length,
          (recipe.preview options threshold rows).findings⟩, c.record ⟨recipe.id, recipe.version.toNat, rows.length,
          (recipe.preview options threshold rows).rows.length,
          (recipe.preview options threshold rows).findings.length⟩, (next, made))
      | .error fault => (.error fault, c, (next, made))

-- An execution begins only when all its writes can be made, and then nothing but its handler ends it.
theorem preflight_agrees [Libraries] (c : Catalog) (recipe : Recipe) (options : RunOptions) (threshold : Double) (rows : List Row)
    (handler : Handler σ) (s : σ) : Preflight c recipe options threshold rows handler s := by
  refine ⟨fun log => ?_, ?_, fun i missing => ?_,
    fun complete => ⟨recipe_ready_iff.mpr complete, targets_ready complete⟩, ?_⟩
  · obtain ⟨same, state⟩ := (preview_agrees recipe options threshold rows handler s).observed log
    unfold Catalog.execute
    cases recipe.ready with
    | error fault => exact ⟨rfl, rfl, rfl⟩
    | ok _ =>
      dsimp only
      generalize recipe.execute options threshold handler.logged rows (s, log) = logged at same state ⊢
      generalize recipe.execute options threshold handler rows s = plain at same state ⊢
      obtain ⟨result, next, calls⟩ := logged
      obtain ⟨rfl, rfl⟩ : result = plain.1 ∧ next = plain.2 := ⟨same, state⟩
      rcases plain with ⟨fault | _, next⟩ <;> exact ⟨rfl, rfl, rfl⟩
  · intro lacking
    obtain ⟨before, w, after, split, lacks, first⟩ := first_lacking lacking
    obtain ⟨rest, incomplete⟩ := incomplete_first split lacks first
    have unready : recipe.ready = .error (.configuration (.incompleteStep before.length w.missing)) := by
      rw [Recipe.ready, incomplete]
    exact ⟨before, w, after, split, lacks, first, by rw [Catalog.execute, unready]⟩
  · rfl
  · intro complete
    have ready : ∀ call ∈ recipe.writes options threshold rows, call.target.ready = .ok () := by
      intro call member
      refine targets_ready complete call.target ?_
      rw [← callsFrom_targets recipe.steps (.start rows), ← writes_eq]
      exact List.mem_map_of_mem member
    obtain ⟨result, next, made, all, ending⟩ := handler.ready_ending ready s []
    refine ⟨result, next, made, ending, ?_⟩
    rw [List.nil_append] at all
    rw [Catalog.execute, recipe_ready_iff.mpr complete, execute_eq, all]
    cases result with
    | ok _ => dsimp only
    | error fault => dsimp only

end TidyRows
