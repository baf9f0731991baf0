import TidyRows.Recipe.Target
import TidyRows.Run
namespace TidyRows

structure RunRecord where
  recipeId : String
  recipeVersion : Nat
  processed : Nat
  written : Nat
  findings : Nat
  deriving DecidableEq, Repr

structure Catalog where
  recipes : Keyed Recipe
  -- The oldest first
  history : List RunRecord

namespace Catalog

def empty : Catalog := ⟨.empty, []⟩

def get (c : Catalog) (id : String) : Except StoreFault Recipe :=
  match c.recipes.get? id with
  | some recipe => .ok recipe
  | none => .error (.notFound "recipe" id)

-- Adds a recipe, or replaces the one with its id unless that is newer.
def save (c : Catalog) (recipe : Recipe) : Except StoreFault Catalog :=
  match c.recipes.get? recipe.id with
  | some current =>
    if recipe.version < current.version then .error (.olderVersion recipe.id current.version.toNat recipe.version.toNat)
    else .ok { c with recipes := c.recipes.put recipe.id recipe }
  | none => .ok { c with recipes := c.recipes.put recipe.id recipe }

def record (c : Catalog) (run : RunRecord) : Catalog := { c with history := c.history ++ [run] }

def runsOf (c : Catalog) (id : String) : List RunRecord := c.history.filter (·.recipeId == id)

def load (c : Catalog) (id : String) : Except Fault Recipe := (c.get id).mapError .store

def execute [Libraries] (c : Catalog) (recipe : Recipe) (options : RunOptions) (threshold : Double) (handler : Handler σ)
    (rows : List Row) (s : σ) : Except Fault ExecutionReport × Catalog × σ :=
  match recipe.ready with
  | .error fault => (.error fault, c, s)
  | .ok _ =>
    match recipe.execute options threshold handler rows s with
    | (.ok r, s) => (.ok r, c.record ⟨recipe.id, recipe.version.toNat, r.processed, r.written, r.findings.length⟩, s)
    | (.error fault, s) => (.error fault, c, s)

def executeStored [Libraries] (c : Catalog) (id : String) (target : Target) (options : RunOptions) (threshold : Double)
    (handler : Handler σ) (rows : List Row) (s : σ) : Except Fault ExecutionReport × Catalog × σ :=
  match c.load id with
  | .error fault => (.error fault, c, s)
  | .ok recipe => c.execute (recipe.aimedAt target) options threshold handler rows s

end Catalog
end TidyRows
