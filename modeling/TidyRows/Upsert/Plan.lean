import TidyRows.Step.Signature
import TidyRows.Upsert.KeyIndex
namespace TidyRows

structure UpsertSettings where
  batchSize : Nat
  batchDelay : Duration
  maxRetries : UInt32
  retryInitialDelay : Duration
  retryMaxDelay : Duration
  backoffMultiplier : Double
  jitter : Bool
  -- The most items that are asked for beforehand
  itemLimit : Nat
  concurrency : Nat

def UpsertSettings.retryPolicy (s : UpsertSettings) : RetryPolicy :=
  ⟨s.maxRetries, s.retryInitialDelay, s.retryMaxDelay, s.backoffMultiplier, s.jitter⟩

structure UpsertPlan where
  boardId : String
  mapping : Keyed String
  -- The field that holds the key, and the column of the board that it is compared with
  key : Option (String × String)
  itemNameField : Option String

namespace UpsertPlan

def keyOf (w : WriteBack) (mapping : Keyed String) : Except Fault (Option (String × String)) :=
  match w.keyColumn.filter fun k => !Text.allBlank k.toList with
  | none => .ok none
  | some key => match w.keyColumnId.or (mapping.get? key) with
    | some column => .ok (some (key, column))
    | none => .error (.configuration (.unresolvedKey key))

def ofTarget (w : WriteBack) : Except Fault UpsertPlan := do
  w.ready
  match w.boardId, w.columnMapping with
  | some boardId, some mapping => return ⟨boardId, mapping, ← keyOf w mapping, w.itemNameField⟩
  | _, _ => .error (.configuration .noBoard)

def columns (p : UpsertPlan) (row : Row) : Columns :=
  .ofList (p.mapping.entries.filterMap fun (field, column) =>
    match row.get? field with
    | none => none
    | some .null => none
    | some value => some (column, value))

def keyOfRow (p : UpsertPlan) (row : Row) : Option String :=
  p.key.bind fun (field, _) => normalizeKey (cellText (row.get? field)).toList

def fallbackName : String := "Untitled"

def nameIn (row : Row) (field : String) : Option String :=
  if isBlankCell (row.get? field) then none
  else some (String.ofList (Text.trim (cellText (row.get? field)).toList))

def itemName (p : UpsertPlan) (row : Row) : String :=
  ((p.itemNameField.bind (nameIn row)).or ((p.key.map (·.1)).bind (nameIn row))).getD fallbackName

end UpsertPlan

inductive UpsertAction where
  | create
  | update
  deriving DecidableEq, Repr

def UpsertAction.name : UpsertAction → String
  | create => "create"
  | update => "update"

def UpsertPlan.writeOf (p : UpsertPlan) (row : Row) (known : Option String) : Write :=
  match known with
  | some id => .update id (p.columns row)
  | none => .create (p.itemName row) (p.columns row)

def Write.action : Write → UpsertAction
  | create _ _ => .create
  | update _ _ => .update

structure RowOutcome where
  row : Nat
  action : UpsertAction
  answer : Except BoardFault String
  attempts : UInt32

def RowOutcome.success (o : RowOutcome) : Bool :=
  match o.answer with
  | .ok _ => true
  | .error _ => false

def RowOutcome.breaks (policy : RetryPolicy) (o : RowOutcome) : Bool := policy.breaks o.attempts o.answer

structure UpsertResult where
  succeeded : Nat
  failed : Nat
  results : List RowOutcome
  -- Set when the run ended before all rows had been attempted
  cancelled : Bool

namespace UpsertResult

def empty : UpsertResult := ⟨0, 0, [], false⟩

def record (r : UpsertResult) (o : RowOutcome) : UpsertResult :=
  { r with succeeded := if o.success then r.succeeded + 1 else r.succeeded
           failed := if o.success then r.failed else r.failed + 1
           results := r.results ++ [o] }

end UpsertResult

def RowOutcome.toValue (o : RowOutcome) : Value :=
  .record ([("rowIndex", .ofNat o.row), ("action", .text o.action.name), ("success", .bool o.success)]
    ++ (match o.answer with
      | .ok id => [("itemId", .text id)]
      | .error fault => [("error", .text fault.message)])
    ++ [("attempts", .ofNat o.attempts.toNat)])

def UpsertResult.toValue (r : UpsertResult) : Value :=
  .record [("totalSuccess", .ofNat r.succeeded), ("totalFailed", .ofNat r.failed),
    ("results", .list (r.results.map (·.toValue))), ("cancelled", .bool r.cancelled)]

end TidyRows
