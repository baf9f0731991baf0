import TidyRows.Catalog
namespace TidyRows

namespace Catalog

inductive Operation (σ : Type) where
  | save (recipe : Recipe)
  | get (id : String)
  | load (id : String)
  | preview (recipe : Recipe) (options : RunOptions) (rows : List Row)
  | execute (recipe : Recipe) (options : RunOptions) (rows : List Row) (handler : Handler σ)
  | executeStored (id : String) (target : Target) (options : RunOptions) (rows : List Row) (handler : Handler σ)
  | record (run : RunRecord)
  | runs (id : String)

inductive Answer where
  | saved (result : Except StoreFault Unit)
  | got (result : Except StoreFault Recipe)
  | loaded (result : Except Fault Recipe)
  | previewed (outcome : Outcome)
  | executed (result : Except Fault ExecutionReport)
  | recorded
  | listed (runs : List RunRecord)

def perform [Libraries] (threshold : Double) (c : Catalog) (s : σ) : Operation σ → Answer × Catalog × σ
  | .save recipe => match c.save recipe with
    | .ok c => (.saved (.ok ()), c, s)
    | .error fault => (.saved (.error fault), c, s)
  | .get id => (.got (c.get id), c, s)
  | .load id => (.loaded (c.load id), c, s)
  | .preview recipe options rows => (.previewed (recipe.preview options threshold rows), c, s)
  | .execute recipe options rows handler =>
    let (result, c, s) := c.execute recipe options threshold handler rows s
    (.executed result, c, s)
  | .executeStored id target options rows handler =>
    let (result, c, s) := c.executeStored id target options threshold handler rows s
    (.executed result, c, s)
  | .record run => (.recorded, c.record run, s)
  | .runs id => (.listed (c.runsOf id), c, s)

end Catalog

structure Session (σ : Type) where
  catalog : Catalog
  state : σ
  log : List (Catalog.Operation σ × Catalog.Answer)

namespace Session

def start (state : σ) : Session σ := ⟨.empty, state, []⟩

def answer [Libraries] (threshold : Double) (s : Session σ) (operation : Catalog.Operation σ) : Catalog.Answer :=
  (s.catalog.perform threshold s.state operation).1

def next [Libraries] (threshold : Double) (s : Session σ) (operation : Catalog.Operation σ) : Session σ :=
  let (answer, catalog, state) := s.catalog.perform threshold s.state operation
  ⟨catalog, state, s.log ++ [(operation, answer)]⟩

def after [Libraries] (threshold : Double) (state : σ) (operations : List (Catalog.Operation σ)) : Session σ :=
  operations.foldl (next threshold) (start state)

end Session
end TidyRows
