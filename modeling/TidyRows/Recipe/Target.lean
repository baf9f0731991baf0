import TidyRows.Recipe.Basic
namespace TidyRows

structure Target where
  boardId : String
  columnMapping : Option (Keyed String)
  keyColumn : Option String
  deriving DecidableEq, Repr

def resolveKey (keyColumn : Option String) (mapping : Option (Keyed String)) : Option String :=
  keyColumn.bind fun key => mapping.bind fun m => m.get? key

-- A column id that was found through another mapping or for another key must not survive.
def WriteBack.aimedAt (w : WriteBack) (t : Target) : WriteBack :=
  match w.strategy with
  | .csvExport => w
  | .externalUpsert =>
    let columnMapping := t.columnMapping.or w.columnMapping
    let keyColumn := t.keyColumn.or w.keyColumn
    let known := if t.columnMapping.isSome || t.keyColumn.isSome then none else w.keyColumnId
    { w with boardId := some t.boardId, columnMapping, keyColumn
             keyColumnId := known.or (resolveKey keyColumn columnMapping) }

def Step.aimedAt (s : Step) (t : Target) : Step :=
  match s with
  | .writeBack w => .writeBack (w.aimedAt t)
  | s => s

def Recipe.aimedAt (r : Recipe) (t : Target) : Recipe := { r with steps := r.steps.map (·.aimedAt t) }

end TidyRows
