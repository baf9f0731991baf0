import Mathlib.Data.List.Basic
import TidyRows.Proofs.Keyed
import TidyRows.Session
namespace TidyRows

abbrev Entry (σ : Type) := Catalog.Operation σ × Catalog.Answer

def Entry.saved? : Entry σ → Option Recipe
  | (.save recipe, .saved (.ok _)) => some recipe
  | _ => none

def lastSaved (id : String) (log : List (Entry σ)) : Option Recipe :=
  ((log.filterMap Entry.saved?).filter (·.id == id)).getLast?

def ExecutionReport.recordOf (report : ExecutionReport) (recipe : Recipe) : RunRecord :=
  ⟨recipe.id, recipe.version.toNat, report.processed, report.written, report.findings.length⟩

-- The run that an entry tells of, if it has not failed. A stored recipe is the one saved last by then.
def Entry.run? (before : List (Entry σ)) : Entry σ → Option RunRecord
  | (.record run, _) => some run
  | (.execute recipe _ _ _, .executed (.ok report)) => some (report.recordOf recipe)
  | (.executeStored id _ _ _ _, .executed (.ok report)) => (lastSaved id before).map report.recordOf
  | _ => none

def runsTold (log : List (Entry σ)) : List RunRecord :=
  log.zipIdx.filterMap fun place => Entry.run? (log.take place.2) place.1

section
variable {log : List (Entry σ)} {entry : Entry σ} {id : String} {recipe : Recipe}

theorem lastSaved_snoc (id : String) (log : List (Entry σ)) (entry : Entry σ) :
    lastSaved id (log ++ [entry]) = (entry.saved?.filter (·.id == id)).or (lastSaved id log) := by
  unfold lastSaved
  rw [List.filterMap_append, List.filter_append]
  cases saved : entry.saved? with
  | none => simp [saved]
  | some recipe =>
    by_cases here : recipe.id = id
    · simp [saved, here, Option.filter]
    · simp [saved, here, Option.filter]

theorem lastSaved_id (found : lastSaved id log = some recipe) : recipe.id = id := by
  have member := List.mem_of_getLast? found
  simpa using (List.mem_filter.mp member).2

theorem runsTold_snoc (log : List (Entry σ)) (entry : Entry σ) :
    runsTold (log ++ [entry]) = runsTold log ++ (entry.run? log).toList := by
  unfold runsTold
  rw [List.zipIdx_append, List.filterMap_append]
  congr 1
  · refine List.filterMap_congr fun place member => ?_
    have below : place.2 < log.length := (List.getElem?_eq_some_iff.mp (List.mem_zipIdx_iff_getElem?.mp member)).1
    rw [List.take_append_of_le_length (Nat.le_of_lt below)]
  · have whole : (log ++ [entry]).take log.length = log := List.take_left
    cases run : entry.run? log <;> simp [whole, run]

end

namespace Catalog

-- All that an operation can do. A run leaves its record only when it comes to its end.
inductive Performed [Libraries] (threshold : Double) (c : Catalog) (s : σ) : Operation σ → Answer → Catalog → σ → Prop where
  | saved (newest : ∀ current, c.recipes.get? recipe.id = some current → current.version ≤ recipe.version) :
      Performed threshold c s (.save recipe) (.saved (.ok ())) { c with recipes := c.recipes.put recipe.id recipe } s
  | refused (stored : c.recipes.get? recipe.id = some current) (older : recipe.version < current.version) :
      Performed threshold c s (.save recipe)
        (.saved (.error (.olderVersion recipe.id current.version.toNat recipe.version.toNat))) c s
  | got (id : String) : Performed threshold c s (.get id) (.got (c.get id)) c s
  | loaded (id : String) : Performed threshold c s (.load id) (.loaded (c.load id)) c s
  | previewed (recipe : Recipe) (options : RunOptions) (rows : List Row) :
      Performed threshold c s (.preview recipe options rows) (.previewed (recipe.preview options threshold rows)) c s
  | executed (recipe : Recipe) (options : RunOptions) (rows : List Row) (handler : Handler σ)
      (report : ExecutionReport) (after : σ) : Performed threshold c s (.execute recipe options rows handler)
        (.executed (.ok report)) (c.record (report.recordOf recipe)) after
  | failed (recipe : Recipe) (options : RunOptions) (rows : List Row) (handler : Handler σ) (fault : Fault)
      (after : σ) :
      Performed threshold c s (.execute recipe options rows handler) (.executed (.error fault)) c after
  | executedStored (id : String) (target : Target) (options : RunOptions) (rows : List Row) (handler : Handler σ)
      (stored : c.recipes.get? id = some recipe) (report : ExecutionReport) (after : σ) :
      Performed threshold c s (.executeStored id target options rows handler) (.executed (.ok report))
        (c.record (report.recordOf recipe)) after
  | failedStored (id : String) (target : Target) (options : RunOptions) (rows : List Row) (handler : Handler σ)
      (fault : Fault) (after : σ) :
      Performed threshold c s (.executeStored id target options rows handler) (.executed (.error fault)) c after
  | recorded (run : RunRecord) : Performed threshold c s (.record run) .recorded (c.record run) s
  | listed (id : String) : Performed threshold c s (.runs id) (.listed (c.runsOf id)) c s

section
variable {c c' : Catalog} {s s' : σ} {threshold : Double} {recipe current : Recipe} {id : String}
  {operation : Operation σ} {answer : Answer}

theorem execute_cases [Libraries] (c : Catalog) (recipe : Recipe) (options : RunOptions) (threshold : Double)
    (handler : Handler σ) (rows : List Row) (s : σ) :
    (∃ report after, c.execute recipe options threshold handler rows s =
      (.ok report, c.record (report.recordOf recipe), after)) ∨
    ∃ fault after, c.execute recipe options threshold handler rows s = (.error fault, c, after) := by
  unfold execute
  cases recipe.ready with
  | error fault => exact .inr ⟨fault, s, rfl⟩
  | ok _ =>
    dsimp only
    rcases recipe.execute options threshold handler rows s with ⟨fault | report, after⟩
    · exact .inr ⟨fault, after, rfl⟩
    · exact .inl ⟨report, after, rfl⟩

theorem get_eq (c : Catalog) (id : String) :
    c.get id = (c.recipes.get? id).elim (.error (.notFound "recipe" id)) .ok := by
  unfold get
  cases c.recipes.get? id <;> rfl

theorem load_eq (c : Catalog) (id : String) :
    c.load id = (c.recipes.get? id).elim (.error (.store (.notFound "recipe" id))) .ok := by
  rw [load, get_eq]
  cases c.recipes.get? id <;> rfl

theorem executeStored_of_absent [Libraries] (absent : c.recipes.get? id = none) (target : Target) (options : RunOptions)
    (threshold : Double) (handler : Handler σ) (rows : List Row) (s : σ) :
    c.executeStored id target options threshold handler rows s = (.error (.store (.notFound "recipe" id)), c, s) := by
  simp [executeStored, load_eq, absent]

theorem executeStored_of_stored [Libraries] (stored : c.recipes.get? id = some recipe) (target : Target) (options : RunOptions)
    (threshold : Double) (handler : Handler σ) (rows : List Row) (s : σ) :
    c.executeStored id target options threshold handler rows s =
      c.execute (recipe.aimedAt target) options threshold handler rows s := by
  simp [executeStored, load_eq, stored]

theorem save_of_older (stored : c.recipes.get? recipe.id = some current) (older : recipe.version < current.version) :
    c.save recipe = .error (.olderVersion recipe.id current.version.toNat recipe.version.toNat) := by
  simp only [save, stored, if_pos older]

theorem save_of_newest
    (newest : ∀ current, c.recipes.get? recipe.id = some current → current.version ≤ recipe.version) :
    c.save recipe = .ok { c with recipes := c.recipes.put recipe.id recipe } := by
  cases stored : c.recipes.get? recipe.id with
  | none => simp only [save, stored]
  | some current => simp only [save, stored, if_neg (UInt32.not_lt.mpr (newest current stored))]

theorem performed [Libraries] (threshold : Double) (c : Catalog) (s : σ) (operation : Operation σ) :
    Performed threshold c s operation (c.perform threshold s operation).1 (c.perform threshold s operation).2.1
      (c.perform threshold s operation).2.2 := by
  cases operation with
  | save recipe =>
    by_cases refused : ∃ current, c.recipes.get? recipe.id = some current ∧ recipe.version < current.version
    · obtain ⟨current, stored, older⟩ := refused
      simp only [perform, save_of_older stored older]
      exact .refused stored older
    · have newest : ∀ current, c.recipes.get? recipe.id = some current → current.version ≤ recipe.version :=
        fun current stored => UInt32.not_lt.mp fun older => refused ⟨current, stored, older⟩
      simp only [perform, save_of_newest newest]
      exact .saved newest
  | get id => exact .got id
  | load id => exact .loaded id
  | preview recipe options rows => exact .previewed recipe options rows
  | execute recipe options rows handler =>
    rcases execute_cases c recipe options threshold handler rows s with ⟨report, after, ran⟩ | ⟨fault, after, ran⟩
    · simp only [perform, ran]
      exact .executed recipe options rows handler report after
    · simp only [perform, ran]
      exact .failed recipe options rows handler fault after
  | executeStored id target options rows handler =>
    cases stored : c.recipes.get? id with
    | none =>
      simp only [perform, executeStored_of_absent stored]
      exact .failedStored id target options rows handler _ s
    | some recipe =>
      rcases execute_cases c (recipe.aimedAt target) options threshold handler rows s with
        ⟨report, after, ran⟩ | ⟨fault, after, ran⟩
      · simp only [perform, executeStored_of_stored stored, ran]
        exact .executedStored id target options rows handler stored report after
      · simp only [perform, executeStored_of_stored stored, ran]
        exact .failedStored id target options rows handler fault after
  | record run => exact .recorded run
  | runs id => exact .listed id

-- Only saving puts a recipe into the catalog.
theorem Performed.stored [Libraries] (done : Performed threshold c s operation answer c' s') (id : String) :
    c'.recipes.get? id = ((Entry.saved? (operation, answer)).filter (·.id == id)).or (c.recipes.get? id) := by
  cases done with
  | @saved recipe newest =>
    rw [Keyed.get?_put]
    by_cases here : id = recipe.id
    · simp [Entry.saved?, here, Option.filter]
    · simp [Entry.saved?, here, Ne.symm here, Option.filter]
  | _ => rfl

theorem Performed.history [Libraries] (done : Performed threshold c s operation answer c' s') {log : List (Entry σ)}
    (kept : ∀ id, c.recipes.get? id = lastSaved id log) :
    c'.history = c.history ++ (Entry.run? log (operation, answer)).toList := by
  cases done with
  | executed | recorded => rfl
  | executedStored id target options rows handler stored report after =>
    simp [Entry.run?, ← kept id, stored, record]
  | _ => exact (List.append_nil _).symm

theorem Performed.rises [Libraries] (done : Performed threshold c s operation answer c' s')
    (stored : c.recipes.get? id = some current) :
    ∃ later, c'.recipes.get? id = some later ∧ current.version ≤ later.version := by
  cases done with
  | @saved recipe newest =>
    by_cases here : id = recipe.id
    · subst here
      exact ⟨recipe, Keyed.get?_put_same _ _ _, newest current stored⟩
    · exact ⟨current, (Keyed.get?_put_other _ _ here).trans stored, UInt32.le_refl _⟩
  | _ => exact ⟨current, stored, UInt32.le_refl _⟩

theorem Performed.refused_iff [Libraries] (done : Performed threshold c s (.save recipe) answer c' s') :
    (∃ fault, answer = .saved (.error fault)) ↔
      ∃ current, c.recipes.get? recipe.id = some current ∧ recipe.version < current.version := by
  cases done with
  | saved newest =>
    constructor
    · rintro ⟨fault, ⟨⟩⟩
    · rintro ⟨current, stored, older⟩
      exact absurd older (UInt32.not_lt.mpr (newest current stored))
  | refused stored older => exact ⟨fun _ => ⟨_, stored, older⟩, fun _ => ⟨_, rfl⟩⟩

theorem Performed.unchanged_of_refused [Libraries] (done : Performed threshold c s operation (.saved (.error fault)) c' s') :
    c' = c := by
  cases done
  rfl

theorem Performed.unchanged_of_failed [Libraries] (done : Performed threshold c s operation (.executed (.error fault)) c' s') :
    c' = c := by
  cases done <;> rfl

theorem Performed.found [Libraries] {target : Target} {options : RunOptions} {rows : List Row} {handler : Handler σ}
    {report : ExecutionReport}
    (done : Performed threshold c s (.executeStored id target options rows handler) (.executed (.ok report)) c' s') :
    ∃ recipe, c.recipes.get? id = some recipe := by
  cases done with
  | executedStored _ _ _ _ _ stored => exact ⟨_, stored⟩

theorem Performed.recipes_of_not_save [Libraries] (done : Performed threshold c s operation answer c' s')
    (other : ∀ recipe, operation ≠ .save recipe) : c'.recipes = c.recipes := by
  cases done with
  | saved => exact absurd rfl (other _)
  | _ => rfl

end

end Catalog

namespace Session

-- What the catalog holds is what the log tells.
structure Kept (s : Session σ) : Prop where
  stored (id : String) : s.catalog.recipes.get? id = lastSaved id s.log
  history : s.catalog.history = runsTold s.log

section
variable {threshold : Double} {s : Session σ} {id : String} {current : Recipe}

theorem next_performed [Libraries] (threshold : Double) (s : Session σ) (operation : Catalog.Operation σ) :
    Catalog.Performed threshold s.catalog s.state operation (s.answer threshold operation)
      (s.next threshold operation).catalog (s.next threshold operation).state := Catalog.performed ..

theorem start_kept (state : σ) : (start state).Kept := ⟨fun _ => rfl, rfl⟩

theorem next_kept [Libraries] (kept : s.Kept) (operation : Catalog.Operation σ) : (s.next threshold operation).Kept := by
  have done := next_performed threshold s operation
  have log : (s.next threshold operation).log = s.log ++ [(operation, s.answer threshold operation)] := rfl
  constructor
  · intro id
    rw [log, lastSaved_snoc, ← kept.stored]
    exact done.stored id
  · rw [log, runsTold_snoc, ← kept.history]
    exact done.history kept.stored

theorem foldl_kept [Libraries] (kept : s.Kept) (operations : List (Catalog.Operation σ)) :
    (operations.foldl (next threshold) s).Kept := by
  induction operations generalizing s with
  | nil => exact kept
  | cons operation rest ih => exact ih (next_kept kept operation)

theorem after_kept [Libraries] (threshold : Double) (state : σ) (operations : List (Catalog.Operation σ)) :
    (after threshold state operations).Kept := foldl_kept (start_kept state) operations

theorem foldl_rises [Libraries] (operations : List (Catalog.Operation σ)) (stored : s.catalog.recipes.get? id = some current) :
    ∃ later, (operations.foldl (next threshold) s).catalog.recipes.get? id = some later ∧
      current.version ≤ later.version := by
  induction operations generalizing s current with
  | nil => exact ⟨current, stored, UInt32.le_refl _⟩
  | cons operation rest ih =>
    obtain ⟨between, held, up⟩ := (next_performed threshold s operation).rises stored
    obtain ⟨later, found, on⟩ := ih held
    exact ⟨later, found, UInt32.le_trans up on⟩

end

structure KeepsHistory [Libraries] (threshold : Double) (s : Session σ) : Prop where
  gets (id : String) : s.answer threshold (.get id) =
    .got ((lastSaved id s.log).elim (.error (.notFound "recipe" id)) .ok)
  loads (id : String) : s.answer threshold (.load id) =
    .loaded ((lastSaved id s.log).elim (.error (.store (.notFound "recipe" id))) .ok)
  lists (id : String) : s.answer threshold (.runs id) = .listed ((runsTold s.log).filter (·.recipeId == id))
  -- A version never goes down, however the session goes on.
  rises (id : String) (current : Recipe) (stored : lastSaved id s.log = some current)
    (operations : List (Catalog.Operation σ)) :
    ∃ later, lastSaved id (operations.foldl (next threshold) s).log = some later ∧ current.version ≤ later.version
  refuses (recipe : Recipe) : (∃ fault, s.answer threshold (.save recipe) = .saved (.error fault)) ↔
    ∃ current, lastSaved recipe.id s.log = some current ∧ recipe.version < current.version
  -- Only what is stored under an id is run by it.
  finds (id : String) (target : Target) (options : RunOptions) (rows : List Row) (handler : Handler σ)
    (report : ExecutionReport)
    (told : s.answer threshold (.executeStored id target options rows handler) = .executed (.ok report)) :
    ∃ recipe, lastSaved id s.log = some recipe ∧ recipe.id = id
  -- What is refused or fails changes nothing, and what is stored is changed by saving only.
  refused (operation : Catalog.Operation σ) (fault : StoreFault)
    (told : s.answer threshold operation = .saved (.error fault)) : (s.next threshold operation).catalog = s.catalog
  failed (operation : Catalog.Operation σ) (fault : Fault)
    (told : s.answer threshold operation = .executed (.error fault)) : (s.next threshold operation).catalog = s.catalog
  others (operation : Catalog.Operation σ) (other : ∀ recipe, operation ≠ .save recipe) :
    (s.next threshold operation).catalog.recipes = s.catalog.recipes

end Session

theorem catalog_keeps_history [Libraries] (threshold : Double) (state : σ) (operations : List (Catalog.Operation σ)) :
    (Session.after threshold state operations).KeepsHistory threshold := by
  have kept := Session.after_kept threshold state operations
  generalize Session.after threshold state operations = s at kept
  have done := Session.next_performed threshold s
  refine ⟨fun id => ?_, fun id => ?_, fun id => ?_, fun id current stored operations => ?_, fun recipe => ?_,
    fun id target options rows handler report told => ?_, fun operation fault told => ?_,
    fun operation fault told => ?_, fun operation other => ?_⟩
  · rw [← kept.stored, ← Catalog.get_eq]
    rfl
  · rw [← kept.stored, ← Catalog.load_eq]
    rfl
  · rw [← kept.history]
    rfl
  · rw [← kept.stored] at stored
    rw [← (Session.foldl_kept kept operations).stored]
    exact Session.foldl_rises operations stored
  · rw [← kept.stored]
    exact (done (.save recipe)).refused_iff
  · have step := done (.executeStored id target options rows handler)
    rw [told] at step
    obtain ⟨recipe, stored⟩ := step.found
    rw [kept.stored] at stored
    exact ⟨recipe, stored, lastSaved_id stored⟩
  · have step := done operation
    rw [told] at step
    exact step.unchanged_of_refused
  · have step := done operation
    rw [told] at step
    exact step.unchanged_of_failed
  · exact (done operation).recipes_of_not_save other

end TidyRows
