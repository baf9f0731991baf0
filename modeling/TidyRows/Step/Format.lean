import TidyRows.Finding
import TidyRows.Recipe.Basic
import TidyRows.Transform.Apply
namespace TidyRows.FieldTransform

def writeField (index : Nat) (state : Row × List Change) (update : String × Value) : Row × List Change :=
  let (row, changes) := state
  match Change.between index update.1 ((row.get? update.1).getD .null) update.2 with
  | some change => (row.put update.1 update.2, changes ++ [change])
  | none => (row, changes)

def applyTo [Libraries] (index : Nat) (state : Row × List Change) (t : FieldTransform) : Row × List Change :=
  (Transform.updates t.kind (t.options.getD .none) state.1 t.field).foldl (writeField index) state

def formatRow [Libraries] (transforms : List FieldTransform) (index : Nat) (row : Row) : Row × List Change :=
  transforms.foldl (applyTo index) (row, [])

def formatRows [Libraries] (transforms : List FieldTransform) (rows : List Row) : List Row × List Change :=
  let formatted := rows.zipIdx.map fun (row, i) => formatRow transforms i row
  (formatted.map (·.1), formatted.flatMap (·.2))

-- A row and its changes come about by writes alone, so what every write keeps holds in the end.
theorem formatRow_keeps [Libraries] {Holds : Row × List Change → Prop} {index : Nat}
    (keeps : ∀ state update, Holds state → Holds (writeField index state update)) (transforms : List FieldTransform)
    {row : Row} (start : Holds (row, [])) : Holds (formatRow transforms index row) := by
  have all (updates : List (String × Value)) (state : Row × List Change) (holds : Holds state) :
      Holds (updates.foldl (writeField index) state) := by
    induction updates generalizing state with
    | nil => exact holds
    | cons update rest ih => exact ih _ (keeps state update holds)
  unfold formatRow
  generalize (row, ([] : List Change)) = state at start
  induction transforms generalizing state with
  | nil => exact start
  | cons t rest ih => exact ih _ (all _ state start)

end TidyRows.FieldTransform
