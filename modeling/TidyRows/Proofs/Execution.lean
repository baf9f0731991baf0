import TidyRows.Handler.Recorder
import TidyRows.Run
namespace TidyRows

def Step.target? : Step → Option WriteBack
  | .writeBack target => some target
  | _ => none

namespace Handler

-- Keeps a list of all calls besides, also of those that fail.
def logged (handler : Handler σ) : Handler (σ × List WriteCall) := fun call s =>
  let (r, after) := handler call s.1
  (r, (after, s.2 ++ [call]))

def all (handler : Handler σ) : List WriteCall → σ → Except Fault Unit × σ
  | [], s => (.ok (), s)
  | call :: rest, s => match call.target.ready with
    | .error fault => (.error fault, s)
    | .ok _ => match handler call s with
      | (.ok _, s) => all handler rest s
      | (.error fault, s) => (.error fault, s)

inductive Accepts (handler : Handler σ) : List WriteCall → σ → σ → Prop where
  | nil : Accepts handler [] s s
  | cons (ready : call.target.ready = .ok ()) (done : handler call s = (.ok (), next))
      (rest : Accepts handler calls next last) : Accepts handler (call :: calls) s last

variable {handler : Handler σ} {calls after : List WriteCall} {s last : σ}

theorem all_accepted (accepts : handler.Accepts calls s last) (after : List WriteCall) :
    handler.all (calls ++ after) s = handler.all after last := by
  induction accepts with
  | nil => rfl
  | cons ready done rest ih => rw [List.cons_append, all, ready, done]; exact ih

theorem logged_accepts (accepts : handler.Accepts calls s last) (log : List WriteCall) :
    handler.logged.Accepts calls (s, log) (last, log ++ calls) := by
  induction accepts generalizing log with
  | nil => rw [List.append_nil]; exact .nil
  | @cons call s next calls last ready done rest ih =>
    have logs : handler.logged call (s, log) = (.ok (), (next, log ++ [call])) := by rw [logged, done]
    refine .cons ready logs ?_
    have more := ih (log ++ [call])
    rwa [List.append_assoc] at more

theorem ready_accepts (ready : ∀ call ∈ calls, call.target.ready = .ok ())
    (ok : ∀ call s, (handler call s).1 = .ok ()) (s : σ) : handler.Accepts calls s (handler.all calls s).2 := by
  induction calls generalizing s with
  | nil => exact .nil
  | cons call rest ih =>
    have here := ready call (by simp)
    have done : handler call s = (.ok (), (handler call s).2) := by rw [← ok call s]
    rw [all, here, done]
    exact .cons here done (ih (fun call member => ready call (List.mem_cons_of_mem _ member)) _)

-- The list of calls makes no difference to what is done.
theorem all_logged (handler : Handler σ) (calls : List WriteCall) (s : σ) (log : List WriteCall) :
    (handler.logged.all calls (s, log)).1 = (handler.all calls s).1 ∧
      (handler.logged.all calls (s, log)).2.1 = (handler.all calls s).2 := by
  induction calls generalizing s log with
  | nil => exact ⟨rfl, rfl⟩
  | cons call rest ih =>
    rw [all, all]
    cases call.target.ready with
    | error fault => exact ⟨rfl, rfl⟩
    | ok _ =>
      rw [logged]
      rcases handler call s with ⟨fault | _, next⟩
      · exact ⟨rfl, rfl⟩
      · exact ih next _

end Handler

section
variable {options : RunOptions} {threshold : Double}

theorem next_write [Libraries] (o : Outcome) (target : WriteBack) : o.next options threshold (.writeBack target) = o := by
  simp [Outcome.next, Step.apply]

theorem preview_eq [Libraries] (recipe : Recipe) (rows : List Row) : recipe.preview options threshold rows =
    recipe.steps.foldl (Outcome.next options threshold) (.start rows) := by
  simp only [Recipe.preview, Recipe.run, runSteps_preview]
  rfl

-- The calls for the write-back steps that are left, when the steps before have come to some outcome.
def callsFrom [Libraries] (options : RunOptions) (threshold : Double) : List Step → Outcome → List WriteCall
  | [], _ => []
  | step :: rest, o =>
    (step.target?.map fun target => ⟨o.rows, target⟩).toList ++
      callsFrom options threshold rest (o.next options threshold step)

-- An execution is a preview and the calls that go with it.
theorem runSteps_execute [Libraries] (handler : Handler σ) (steps : List Step) (o : Outcome) (s : σ) :
    runSteps options threshold (.execute handler) steps o s =
      match handler.all (callsFrom options threshold steps o) s with
      | (.ok _, s) => (.ok (steps.foldl (Outcome.next options threshold) o), s)
      | (.error fault, s) => (.error fault, s) := by
  induction steps generalizing o s with
  | nil => rfl
  | cons step rest ih =>
    cases step with
    | writeBack target =>
      rw [runSteps, Step.write, callsFrom, Step.target?, Option.map_some, Option.toList_some, List.singleton_append,
        Handler.all]
      cases target.ready with
      | error fault => rfl
      | ok _ =>
        dsimp only
        rcases handler ⟨o.rows, target⟩ s with ⟨fault | _, next⟩
        · rfl
        · exact ih _ next
    | _ => exact ih _ s

def Recipe.writes [Libraries] (recipe : Recipe) (options : RunOptions) (threshold : Double) (rows : List Row) : List WriteCall :=
  recipe.steps.zipIdx.filterMap fun (step, i) => step.target?.map fun target =>
    ⟨({ recipe with steps := recipe.steps.take i }.preview options threshold rows).rows, target⟩

theorem writes_from [Libraries] (rows : List Row) (before steps : List Step) :
    ((steps.zipIdx before.length).filterMap fun (step, i) => step.target?.map fun target =>
      (⟨(((before ++ steps).take i).foldl (Outcome.next options threshold) (.start rows)).rows, target⟩ : WriteCall)) =
    callsFrom options threshold steps (before.foldl (Outcome.next options threshold) (.start rows)) := by
  induction steps generalizing before with
  | nil => rfl
  | cons step rest ih =>
    have later := ih (before ++ [step])
    rw [List.length_append, List.length_singleton, List.append_assoc, List.singleton_append, List.foldl_append,
      List.foldl_cons, List.foldl_nil] at later
    rw [List.zipIdx_cons, List.filterMap_cons, callsFrom, ← later]
    dsimp only
    rw [List.take_left]
    cases step.target? with
    | none => rfl
    | some target => rfl

theorem writes_eq [Libraries] (recipe : Recipe) (rows : List Row) :
    recipe.writes options threshold rows = callsFrom options threshold recipe.steps (.start rows) := by
  simp only [Recipe.writes, preview_eq]
  exact writes_from rows [] recipe.steps

theorem callsFrom_targets [Libraries] (steps : List Step) (o : Outcome) :
    (callsFrom options threshold steps o).map (·.target) = steps.filterMap (·.target?) := by
  induction steps generalizing o with
  | nil => rfl
  | cons step rest ih =>
    rw [callsFrom, List.map_append, ih, List.filterMap_cons]
    cases step.target? with
    | none => rfl
    | some target => rfl

theorem foldl_without_writes [Libraries] (steps : List Step) (o : Outcome) :
    (steps.filter (·.target?.isNone)).foldl (Outcome.next options threshold) o =
      steps.foldl (Outcome.next options threshold) o := by
  induction steps generalizing o with
  | nil => rfl
  | cons step rest ih =>
    cases step with
    | writeBack target =>
      rw [List.filter_cons_of_neg (by simp [Step.target?]), List.foldl_cons, next_write]
      exact ih o
    | _ =>
      rw [List.filter_cons_of_pos (by rfl)]
      exact ih _

theorem execute_eq [Libraries] (handler : Handler σ) (recipe : Recipe) (rows : List Row) (s : σ) :
    recipe.execute options threshold handler rows s =
      match handler.all (recipe.writes options threshold rows) s with
      | (.ok _, s) => (.ok ⟨rows.length, (recipe.preview options threshold rows).rows.length,
          (recipe.preview options threshold rows).findings⟩, s)
      | (.error fault, s) => (.error fault, s) := by
  rw [Recipe.execute, Recipe.run, runSteps_execute, ← writes_eq, ← preview_eq]
  rcases handler.all (recipe.writes options threshold rows) s with ⟨fault | _, next⟩
  · rfl
  · rfl

end

structure Agreement [Libraries] (recipe : Recipe) (options : RunOptions) (threshold : Double) (rows : List Row)
    (handler : Handler σ) (s : σ) : Prop where
  -- a preview has a result, and touches nothing
  previews : recipe.run options threshold .preview rows s = (.ok (recipe.preview options threshold rows), s)
  unwritten : recipe.preview options threshold rows =
    { recipe with steps := recipe.steps.filter (·.target?.isNone) }.preview options threshold rows
  observed : ∀ log, (recipe.execute options threshold handler.logged rows (s, log)).1 =
      (recipe.execute options threshold handler rows s).1 ∧
    (recipe.execute options threshold handler.logged rows (s, log)).2.1 =
      (recipe.execute options threshold handler rows s).2
  -- one call for each write-back step, in the order of the steps
  targets : (recipe.writes options threshold rows).map (·.target) = recipe.steps.filterMap (·.target?)
  -- without a failure, the preview is what is reported, and every write-back step has had its call
  executes : (∀ target ∈ recipe.steps.filterMap (·.target?), target.ready = .ok ()) →
    (∀ call s, (handler call s).1 = .ok ()) →
    ∃ last, recipe.execute options threshold handler.logged rows (s, []) =
      (.ok ⟨rows.length, (recipe.preview options threshold rows).rows.length,
        (recipe.preview options threshold rows).findings⟩, (last, recipe.writes options threshold rows))
  -- the first call that fails is the last one, and its fault is the result
  fails : ∀ before call after last fault failed, recipe.writes options threshold rows = before ++ call :: after →
    handler.Accepts before s last → call.target.ready = .ok () → handler call last = (.error fault, failed) →
    recipe.execute options threshold handler.logged rows (s, []) = (.error fault, (failed, before ++ [call]))

-- A preview shows what an execution does, up to its handler.
theorem preview_agrees [Libraries] (recipe : Recipe) (options : RunOptions) (threshold : Double) (rows : List Row)
    (handler : Handler σ) (s : σ) : Agreement recipe options threshold rows handler s := by
  refine ⟨?_, ?_, fun log => ?_, ?_, fun ready ok => ?_, ?_⟩
  · rw [Recipe.run, runSteps_preview, preview_eq]
  · rw [preview_eq, preview_eq, foldl_without_writes]
  · obtain ⟨same, state⟩ := Handler.all_logged handler (recipe.writes options threshold rows) s log
    rw [execute_eq, execute_eq]
    generalize handler.logged.all (recipe.writes options threshold rows) (s, log) = logged at same state ⊢
    generalize handler.all (recipe.writes options threshold rows) s = plain at same state ⊢
    obtain ⟨result, next, calls⟩ := logged
    obtain ⟨rfl, rfl⟩ : result = plain.1 ∧ next = plain.2 := ⟨same, state⟩
    rcases plain with ⟨fault | _, next⟩ <;> exact ⟨rfl, rfl⟩
  · rw [writes_eq, callsFrom_targets]
  · have ready : ∀ call ∈ recipe.writes options threshold rows, call.target.ready = .ok () := by
      intro call member
      refine ready call.target ?_
      rw [← callsFrom_targets recipe.steps (.start rows), ← writes_eq]
      exact List.mem_map_of_mem member
    have accepts := Handler.ready_accepts ready ok s
    refine ⟨(handler.all (recipe.writes options threshold rows) s).2, ?_⟩
    have all := Handler.all_accepted (Handler.logged_accepts accepts []) []
    rw [List.append_nil, List.nil_append] at all
    rw [execute_eq, all]
    rfl
  · intro before call after last fault failed split accepts ready fail
    have logs : handler.logged call (last, before) = (.error fault, (failed, before ++ [call])) := by
      rw [Handler.logged, fail]
    have all := Handler.all_accepted (Handler.logged_accepts accepts []) (call :: after)
    rw [List.nil_append] at all
    rw [execute_eq, split, all, Handler.all, ready, logs]

-- Rows are written before a column gets its new name, and once more after it. The second time fails.
namespace TwoExports
open Bare

def target : WriteBack := ⟨.csvExport, none, none, none, none, none⟩

def recipe : Recipe :=
  ⟨"r1", "two exports", 1, [.writeBack target, .mapColumns ⟨.ofList [("mail", "email")], none⟩, .writeBack target]⟩

def rows : List Row := [.ofList [("mail", .text "ann")]]

def calls : List WriteCall := [⟨rows, target⟩, ⟨[.ofList [("email", .text "ann")]], target⟩]

def full : Recorder := ⟨[], some 2, "disk full"⟩

def endless : Handler Unit := fun _ _ => (.ok (), ())

theorem writes_calls : recipe.writes ⟨false⟩ .one rows = calls := by rw [writes_eq]; rfl

theorem two_exports_agree :
    (∃ last, recipe.execute ⟨false⟩ .one endless.logged rows ((), []) = (.ok ⟨1, 1, []⟩, (last, calls))) ∧
      recipe.execute ⟨false⟩ .one Recorder.write.logged rows (full, []) =
        (.error (.writeBack "disk full"), ({ full with calls := calls }, calls)) := by
  refine ⟨?_, ?_⟩
  · exact (preview_agrees recipe ⟨false⟩ .one rows endless ()).executes (by simp [recipe, Step.target?, target]; rfl)
      fun _ _ => rfl
  · exact (preview_agrees recipe ⟨false⟩ .one rows Recorder.write full).fails [⟨rows, target⟩] _ [] _ _ _ writes_calls
      (.cons rfl rfl .nil) rfl rfl

end TwoExports
end TidyRows
