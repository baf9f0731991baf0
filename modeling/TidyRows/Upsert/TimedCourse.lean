import TidyRows.Upsert.Course
namespace TidyRows

inductive Happening where
  | opens (rows : List (Nat × Row))
  | pauses
  | starts (row : Nat)
  | deed (d : Deed)
  | ends (row : Nat)

namespace Happening

def row? : Happening → Option Nat
  | .starts row | .ends row => some row
  | .deed d => some d.row
  | .opens _ | .pauses => none

def deed? : Happening → Option Deed
  | .deed d => some d
  | _ => none

def start? : Happening → Option Nat
  | .starts row => some row
  | _ => none

def end? : Happening → Option Nat
  | .ends row => some row
  | _ => none

def spacing : Happening → Bool
  | .opens _ | .pauses => true
  | _ => false

end Happening

abbrev Chronicle := List (Nat × Happening)

namespace Chronicle

def deeds (told : Chronicle) : List (Nat × Deed) := told.filterMap fun e => e.2.deed?.map fun d => (e.1, d)

def started (told : Chronicle) : List Nat := told.filterMap (·.2.start?)

def ended (told : Chronicle) : List Nat := told.filterMap (·.2.end?)

def inProgress (told : Chronicle) : List Nat := told.started.filter fun row => !told.ended.contains row

def spacings (told : Chronicle) : List Happening := (told.map (·.2)).filter Happening.spacing

end Chronicle

namespace Traffic

def Event.row : Event → Nat
  | .enter row _ | .proceed row | .answered row _ | .resumed row => row

def Event.starts : Event → List Nat
  | .enter row _ => [row]
  | _ => []

def happenings (before : Traffic) (event : Event) (after : Traffic) : List Happening :=
  event.starts.map .starts ++ (before.deeds event after).map .deed ++
    (after.ended.drop before.ended.length).map fun o => .ends o.row

end Traffic

structure TimedCourse where
  course : Course
  now : Nat
  -- How many batches have been opened
  opened : Nat
  -- When the pause before the next batch is over, if it has begun
  restsUntil : Option Nat

namespace TimedCourse

def start (settings : UpsertSettings) (rows : List Row) (index : KeyIndex) (now : Nat) : TimedCourse :=
  ⟨.start settings rows index, now, 0, none⟩

-- A pause of `length` comes before every batch except the first.
inductive Step (p : UpsertPlan) (policy : RetryPolicy) (room length : Nat) (k : TimedCourse) :
    List Happening → TimedCourse → Prop where
  | time (passes : k.now ≤ later) : Step p policy room length k [] { k with now := later }
  | pause (ended : k.course.traffic.flights = []) (started : k.course.waiting = []) (more : k.course.later ≠ [])
      (several : 0 < k.opened) (free : k.restsUntil = none) :
      Step p policy room length k [.pauses] { k with restsUntil := some (k.now + length) }
  | batch (ended : k.course.traffic.flights = []) (started : k.course.waiting = [])
      (next : k.course.later = rows :: rest) (rested : 0 < k.opened → ∃ time ≤ k.now, k.restsUntil = some time) :
      Step p policy room length k [.opens rows]
        { k with course := { k.course with traffic := k.course.traffic.nextBatch
                                           done := k.course.done ++ k.course.traffic.outcomes
                                           waiting := rows, later := rest }
                 opened := k.opened + 1, restsUntil := none }
  | row (next : k.course.waiting = (i, data) :: rest) (fits : k.course.traffic.flights.length < room)
      (went : k.course.traffic.advance p policy (.enter i data) = some after) (counted : policy.attempts?.isSome) :
      Step p policy room length k (k.course.traffic.happenings (.enter i data) after)
        { k with course := { k.course with traffic := after, waiting := rest } }
  | event (late : ∀ row data, event ≠ .enter row data) (went : k.course.traffic.advance p policy event = some after) :
      Step p policy room length k (k.course.traffic.happenings event after)
        { k with course := { k.course with traffic := after } }
  | stop : Step p policy room length k []
      { k with course := { k.course with waiting := [], later := []
                                         left := k.course.waiting ++ k.course.later.flatten ++ k.course.left } }

inductive Reached (p : UpsertPlan) (policy : RetryPolicy) (room length : Nat) (origin : TimedCourse) :
    Chronicle → TimedCourse → Prop where
  | start : Reached p policy room length origin [] origin
  | step (prior : Reached p policy room length origin told k) (step : Step p policy room length k happenings next) :
      Reached p policy room length origin (told ++ happenings.map (k.now, ·)) next

end TimedCourse
end TidyRows
