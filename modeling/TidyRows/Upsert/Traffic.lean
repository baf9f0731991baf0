import TidyRows.Upsert.InTurn
namespace TidyRows

-- What a row has to do with its key. A lock goes by the number of the row that made it.
structure Ticket where
  key : String
  lock : Nat
  deriving DecidableEq

inductive Phase where
  | queued
  | calling (write : Write) (attempt : UInt32)
  | pausing (write : Write) (attempt : UInt32)

structure Flight where
  row : Nat
  data : Row
  ticket : Option Ticket
  phase : Phase

namespace Flight

def key (f : Flight) : Option String := f.ticket.map (·.key)

def shares (f : Flight) (lock : Nat) : Bool := f.ticket.any (·.lock == lock)

end Flight

structure Traffic where
  index : KeyIndex
  -- The locks that keys lead to. A key that no row wants has none.
  locks : Keyed Nat
  -- Rows in progress, in the order in which they started
  flights : List Flight
  -- Rows that have ended, in the order in which they did
  ended : List RowOutcome

namespace Traffic

def start (index : KeyIndex) : Traffic := ⟨index, .empty, [], []⟩

def flight? (t : Traffic) (row : Nat) : Option Flight := t.flights.find? (·.row == row)

def calling? (t : Traffic) (row : Nat) : Option Write :=
  (t.flight? row).bind fun f => match f.phase with
    | .calling write _ => some write
    | _ => none

def setPhase (t : Traffic) (row : Nat) (phase : Phase) : Traffic :=
  { t with flights := t.flights.map fun f => if f.row == row then { f with phase } else f }

-- Rows get a lock in the order in which they asked for it.
def holder? (t : Traffic) (lock : Nat) : Option Nat := (t.flights.find? (·.shares lock)).map (·.row)

def lockFor (t : Traffic) (key : String) (row : Nat) : Nat := (t.locks.get? key).getD row

def firstCall (p : UpsertPlan) (t : Traffic) (data : Row) (key : Option String) : Phase :=
  .calling (p.writeOf data (key.bind t.index.get?)) 1

-- A row starts: without a key, or with a lock that no other row has, it calls at once.
def enter (p : UpsertPlan) (t : Traffic) (row : Nat) (data : Row) : Traffic :=
  match p.keyOfRow data with
  | none => { t with flights := t.flights ++ [⟨row, data, none, firstCall p t data none⟩] }
  | some k =>
    let lock := t.lockFor k row
    let phase := if (t.holder? lock).isNone then firstCall p t data (some k) else .queued
    { t with locks := t.locks.put k lock, flights := t.flights ++ [⟨row, data, some ⟨k, lock⟩, phase⟩] }

def proceed (p : UpsertPlan) (t : Traffic) (f : Flight) : Traffic := t.setPhase f.row (firstCall p t f.data f.key)

-- How often a lock is referred to: by keys, and by rows that hold or await it.
def references (t : Traffic) (lock : Nat) : Nat :=
  t.locks.entries.countP (·.2 == lock) + t.flights.countP (·.shares lock)

-- A key leads to its lock no longer when only the row that ends refers to it besides.
def release (t : Traffic) (ticket : Ticket) : Keyed Nat :=
  if t.references ticket.lock ≤ 2 then t.locks.erase ticket.key else t.locks

def finish (t : Traffic) (f : Flight) (write : Write) (attempt : UInt32) (answer : Except BoardFault String) :
    Traffic :=
  { index := t.index.remember f.key write answer
    locks := match f.ticket with
      | some ticket => t.release ticket
      | none => t.locks
    flights := t.flights.filter (·.row != f.row)
    ended := t.ended ++ [⟨f.row, write.action, answer, attempt⟩] }

inductive Event where
  | enter (row : Nat) (data : Row)
  | proceed (row : Nat)
  | answered (row : Nat) (answer : Except BoardFault String)
  | resumed (row : Nat)

def known (t : Traffic) (row : Nat) : Bool := (t.flight? row).isSome || t.ended.any (·.row == row)

-- The traffic after an event, if the event is possible. A board may answer anything.
def advance (p : UpsertPlan) (policy : RetryPolicy) (t : Traffic) : Event → Option Traffic
  | .enter row data => if t.known row then none else some (t.enter p row data)
  | .proceed row => match t.flight? row with
    | some f => match f.phase, f.ticket.bind fun ticket => t.holder? ticket.lock with
      | .queued, some holder => if holder == row then some (t.proceed p f) else none
      | _, _ => none
    | none => none
  | .answered row answer => match t.flight? row with
    | some f => match f.phase with
      | .calling write attempt => match answer with
        | .ok id => some (t.finish f write attempt (.ok id))
        | .error fault =>
          if policy.again fault attempt then some (t.setPhase row (.pausing write attempt))
          else some (t.finish f write attempt (.error fault))
      | _ => none
    | none => none
  | .resumed row => match t.flight? row with
    | some f => match f.phase with
      | .pausing write attempt => some (t.setPhase row (.calling write (attempt + 1)))
      | _ => none
    | none => none

end Traffic
end TidyRows
