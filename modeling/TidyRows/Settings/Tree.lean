import TidyRows.Number.Double
import TidyRows.Value.Basic
namespace TidyRows

inductive Setting where
  | text (s : String)
  | whole (n : Int)
  | real (x : Double)
  | flag (b : Bool)
  | list (vs : List Setting)
  | table (fields : List (String × Setting))
  | null
  deriving Inhabited

namespace Setting

-- A date or a time, which is a table of its own kind; no setting has one.
def moment (s : String) : Setting := .table [("moment", .text s)]

mutual
def ofValue : Value → Setting
  | .null => .null
  | .bool b => .flag b
  | .whole n => .whole n.val
  | .real x => .real (.finite x)
  | .text s => .text s
  | .list vs => .list (ofValues vs)
  | .record fields => .table (ofFields fields)

def ofValues : List Value → List Setting
  | [] => []
  | v :: rest => ofValue v :: ofValues rest

def ofFields : List (String × Value) → List (String × Setting)
  | [] => []
  | (name, v) :: rest => (name, ofValue v) :: ofFields rest
end

mutual
def laidOver (below : Setting) : Setting → Setting
  | .table above => match below with
    | .table fields => .table (overFields fields above)
    | _ => .table above
  | above => above

def overFields (below : List (String × Setting)) : List (String × Setting) → List (String × Setting)
  | [] => below
  | (name, v) :: rest =>
    overFields (putEntry name (match below.lookup name with
      | some b => laidOver b v
      | none => v) below) rest
end

def nested (path : List String) (v : Setting) : Setting :=
  path.foldr (fun name v => .table [(name, v)]) v

end Setting
end TidyRows
