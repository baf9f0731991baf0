import TidyRows.Board.Basic
namespace TidyRows

-- What a rehearsed board does. Its calls are told apart by the name of the item that they create, or by the id of the
-- one that they update.
structure RehearsalPlan where
  existing : List Item
  fetchFault : Option BoardFault
  faults : Keyed (List BoardFault)
  -- Those whose last fault is repeated for ever
  always : List String
  duration : Keyed Nat
  cancelOnCall : Option Nat
  cancelAt : Option Nat

inductive BoardCall where
  | fetch (board column : String) (limit : Nat) (time : Nat)
  | create (board name : String) (columns : Columns) (time : Nat)
  | update (board id : String) (columns : Columns) (time : Nat)

structure Rehearsal where
  plan : RehearsalPlan
  -- The newest call first
  log : List BoardCall
  -- When the first call was made. Times in the log count from it.
  started : Option Nat
  writes : Nat
  called : Keyed Nat
  created : Keyed Nat
  cancelledAt : Option Nat

namespace Rehearsal

def ofPlan (plan : RehearsalPlan) : Rehearsal := ⟨plan, [], none, 0, .empty, .empty, plan.cancelAt⟩

def count (k : Keyed Nat) (name : String) : Nat := (k.get? name).getD 0

def start (r : Rehearsal) (now : Nat) : Nat × Rehearsal :=
  let began := r.started.getD now
  (now - began, { r with started := some began })

def fetch (now : Nat) (board column : String) (limit : Nat) (r : Rehearsal) : Answered (List Item) Rehearsal :=
  let (time, r) := r.start now
  let r := { r with log := .fetch board column limit time :: r.log }
  match r.plan.fetchFault with
  | some fault => ⟨.error fault, 0, now, r⟩
  | none => ⟨.ok (r.plan.existing.take limit), 0, now, r⟩

def faultOf? (r : Rehearsal) (who : String) (n : Nat) : Option BoardFault :=
  let faults := (r.plan.faults.get? who).getD []
  match faults[n]? with
  | some fault => some fault
  | none => if r.plan.always.contains who then faults.getLast? else none

def newId (name : String) (k : Nat) : String := "item:" ++ name ++ "#" ++ String.ofList (natText k)

def earlier (a b : Option Nat) : Option Nat :=
  match a, b with
  | some a, some b => some (min a b)
  | a, none => a
  | none, b => b

def countWrite (now : Nat) (who : String) (r : Rehearsal) : Rehearsal :=
  let writes := r.writes + 1
  let cancelled := if r.plan.cancelOnCall == some writes then some now else none
  { r with writes, called := r.called.put who (count r.called who + 1)
           cancelledAt := earlier r.cancelledAt cancelled }

def write (now : Nat) (board : String) (w : Write) (r : Rehearsal) : Answered String Rehearsal :=
  let (time, r) := r.start now
  let (who, call) := match w with
    | .create name columns => (name, BoardCall.create board name columns time)
    | .update id columns => (id, BoardCall.update board id columns time)
  let fault := r.faultOf? who (count r.called who)
  let r := countWrite now who { r with log := call :: r.log }
  let duration := count r.plan.duration who
  match fault, w with
  | some fault, _ => ⟨.error fault, duration, now + duration, r⟩
  | none, .update id _ => ⟨.ok id, duration, now + duration, r⟩
  | none, .create name _ =>
    let k := count r.created name + 1
    ⟨.ok (newId name k), duration, now + duration, { r with created := r.created.put name k }⟩

def board : Board Rehearsal := ⟨fetch, write⟩

def calls (r : Rehearsal) : List BoardCall := r.log.reverse

end Rehearsal

def BoardCall.toValue : BoardCall → Value
  | fetch board column limit time =>
    .record [("call", .text "fetch"), ("board", .text board), ("column", .text column), ("limit", .ofNat limit),
      ("atMs", .ofNat time)]
  | create board name columns time =>
    .record [("call", .text "create"), ("board", .text board), ("name", .text name), ("columns", columns.toValue),
      ("atMs", .ofNat time)]
  | update board id columns time =>
    .record [("call", .text "update"), ("board", .text board), ("id", .text id), ("columns", columns.toValue),
      ("atMs", .ofNat time)]

def BoardCall.time : BoardCall → Nat
  | fetch _ _ _ time => time
  | create _ _ _ time => time
  | update _ _ _ time => time

end TidyRows
