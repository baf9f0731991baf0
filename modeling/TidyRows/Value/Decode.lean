import TidyRows.Value.Basic
namespace TidyRows.Value

-- The fields of a structure, each under its place in `names`. A list may leave out the last ones.
def fields? (names : List String) : Value → Option (List (Option Value))
  | .record fields => some (names.map fun n => fields.lookup n)
  | .list vs =>
    if vs.length ≤ names.length then
      some (vs.map some ++ List.replicate (names.length - vs.length) none)
    else none
  | _ => none

def asText : Value → Option String
  | .text s => some s
  | _ => none

def asBool : Value → Option Bool
  | .bool b => some b
  | _ => none

def asNatBelow (bound : Nat) : Value → Option Nat
  | .whole n => if 0 ≤ n.val ∧ n.val < bound then some n.val.toNat else none
  | _ => none

def asWord (v : Value) : Option UInt32 := (asNatBelow UInt32.size v).map .ofNat

def asNumber : Value → Option Finite
  | .real x => some x
  | .whole n => match Double.ofInt n.val with
    | .finite x => some x
    | _ => none
  | _ => none

def asList (decode : Value → Option α) : Value → Option (List α)
  | .list vs => vs.mapM decode
  | _ => none

def asEntries (decode : Value → Option α) : Value → Option (List (String × α))
  | .record fields => fields.mapM fun (n, v) => (decode v).map (n, ·)
  | _ => none

def asKeyed (decode : Value → Option α) (v : Value) : Option (Keyed α) :=
  (asEntries decode v).map Keyed.ofList

def asRow : Value → Option Row := asKeyed some

def asRows : Value → Option (List Row) := asList asRow

def required (decode : Value → Option α) : Option Value → Option α
  | some v => decode v
  | none => none

def optional (decode : Value → Option α) : Option Value → Option (Option α)
  | none => some none
  | some .null => some none
  | some v => (decode v).map some

-- A name of a fixed choice, alone or as the only field of a record that holds nothing.
def asChoice (ofName? : String → Option α) : Value → Option α
  | .text s => ofName? s
  | .record [(name, .null)] => ofName? name
  | _ => none

end TidyRows.Value
