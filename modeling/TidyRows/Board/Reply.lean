import TidyRows.Board.Basic
import TidyRows.Board.Body
import TidyRows.Value.Written
namespace TidyRows

inductive Reply where
  | dropped
  | answer (status : Nat) (headers : List (String × String)) (body : Body)

def Value.field? (v : Value) (name : String) : Option Value :=
  match v with
  | .record fields => fields.lookup name
  | _ => none

def Value.part? (v : Value) (name : String) : Option Value :=
  match v with
  | .record fields => fields.lookup name
  | .list vs => (natOfText? name.toList).bind fun i => if natText i = name.toList then vs[i]? else none
  | _ => none

def Value.at? (v : Value) : List String → Option Value
  | [] => some v
  | name :: path => (v.part? name).bind (·.at? path)

namespace Reply

def tooManyRequests : Nat := 429

-- Answers that end with their headers.
def hasNoBody (status : Nat) : Bool := status < 200 || status == 204 || status == 304

def isSuccess (status : Nat) : Bool := 200 ≤ status && status < 300

def retryAfter : String := "retry-after"

def standardPause : Nat := 60

def sameHeader (a b : String) : Bool := a.toList.map lowerAscii == b.toList.map lowerAscii

def header? (headers : List (String × String)) (name : String) : Option String :=
  (headers.find? fun h => sameHeader h.1 name).map (·.2)

def isPlain (c : Char) : Bool := c = '\t' || (32 ≤ c.toNat && c.toNat < 127)

-- A number of seconds that fits a word. A plus sign may stand before it.
def secondsOf? (cs : List Char) : Option Nat :=
  let digits := match Text.trim cs with
    | '+' :: digits => digits
    | digits => digits
  (natOfText? digits).filter (· < wordLimit)

def pauseOf (headers : List (String × String)) : Nat :=
  ((header? headers retryAfter).bind fun s => if s.toList.all isPlain then secondsOf? s.toList else none).getD
    standardPause

def errorList (body : Value) : List String :=
  match body.field? "errors" with
  | some (.list errors) => errors.map fun e => cellText (e.field? "message")
  | _ => []

def dataOf (body : Value) : Except BoardFault Value :=
  match errorList body with
  | message :: rest => .error (.api ("; ".intercalate (message :: rest)))
  | [] => match body.field? "error_message", body.field? "data" with
    | some (.text message), _ => .error (.api message)
    | _, some data => .ok data
    | _, none => .error (.malformed "response has no data")

def data : Reply → Except BoardFault Value
  | .dropped => .error (.transport true)
  | .answer status headers body =>
    let body : Body := if hasNoBody status then "" else body
    if status = tooManyRequests then .error (.rateLimited (pauseOf headers))
    else if !isSuccess status then .error (.status status body.shown)
    else match body.value? with
      | some v => dataOf v
      | none => .error (.malformed "response is not JSON")

def idOf : Option Value → Except BoardFault String
  | some (.text id) => .ok id
  | some (.whole n) => .ok (Value.whole n).cellText
  | some (.real x) => .ok (Value.real x).cellText
  | _ => .error (.malformed "missing item id")

def itemOf (v : Value) : Except BoardFault Item :=
  let keyText := match v.field? "column_values" with
    | some (.list (column :: _)) => cellText (column.field? "text")
    | _ => ""
  (idOf (v.field? "id")).map fun id => ⟨id, keyText⟩

def cursorOf (page : Value) : Option String := (page.field? "cursor").bind Value.text?

def pageOf (page : Value) : Except BoardFault (List Item × Option String) :=
  match page.field? "items" with
  | some (.list items) => (items.mapM itemOf).map (·, cursorOf page)
  | _ => .error (.malformed "items page without items")

end Reply
end TidyRows
