import TidyRows.Upsert.Run
namespace TidyRows

structure Deed where
  row : Nat
  write : Write
  -- None for the call itself
  answer : Option (Except BoardFault String)

namespace Traffic

def deeds (before : Traffic) (event : Event) (after : Traffic) : List Deed :=
  match event with
  | .enter row _ | .proceed row | .resumed row => ((after.calling? row).map fun w => ⟨row, w, none⟩).toList
  | .answered row answer => ((before.calling? row).map fun w => ⟨row, w, some answer⟩).toList

def nextBatch (t : Traffic) : Traffic := { t with ended := [] }

def outcomes (t : Traffic) : List RowOutcome := t.ended.foldr insertOutcome []

end Traffic

structure Course where
  traffic : Traffic
  done : List RowOutcome
  waiting : List (Nat × Row)
  later : List (List (Nat × Row))
  -- Rows that will not be started, the run being called off
  left : List (Nat × Row)

namespace Course

def start (settings : UpsertSettings) (rows : List Row) (index : KeyIndex) : Course :=
  ⟨.start index, [], [], batches (max settings.batchSize 1) (numbered rows), []⟩

inductive Step (p : UpsertPlan) (policy : RetryPolicy) (room : Nat) (c : Course) : List Deed → Course → Prop where
  | batch (ended : c.traffic.flights = []) (started : c.waiting = []) (next : c.later = rows :: rest) :
      Step p policy room c [] { c with traffic := c.traffic.nextBatch, done := c.done ++ c.traffic.outcomes
                                       waiting := rows, later := rest }
  | row (next : c.waiting = (i, data) :: rest) (fits : c.traffic.flights.length < room)
      (went : c.traffic.advance p policy (.enter i data) = some after) (counted : policy.attempts?.isSome) :
      Step p policy room c (c.traffic.deeds (.enter i data) after) { c with traffic := after, waiting := rest }
  | event (late : ∀ row data, event ≠ .enter row data) (went : c.traffic.advance p policy event = some after) :
      Step p policy room c (c.traffic.deeds event after) { c with traffic := after }
  | stop : Step p policy room c [] { c with waiting := [], later := [], left := c.waiting ++ c.later.flatten ++ c.left }

-- How far a run can come, and the calls and answers until then.
inductive Reached (p : UpsertPlan) (policy : RetryPolicy) (room : Nat) (origin : Course) :
    List Deed → Course → Prop where
  | start : Reached p policy room origin [] origin
  | step (prior : Reached p policy room origin log c) (step : Step p policy room c deeds next) :
      Reached p policy room origin (log ++ deeds) next

structure Over (c : Course) : Prop where
  flights : c.traffic.flights = []
  waiting : c.waiting = []
  later : c.later = []

def outcomes (c : Course) : List RowOutcome := c.done ++ c.traffic.outcomes

end Course
end TidyRows
