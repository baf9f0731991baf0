import TidyRows.Upsert.Traffic
namespace TidyRows

inductive Task where
  | start (row : Nat) (data : Row)
  | proceed (row : Nat)
  -- With what the system's clock shows then
  | answer (row : Nat) (answer : Except BoardFault String) (clock : Nat)
  | resume (row : Nat)

structure Schedule (σ : Type) where
  traffic : Traffic
  now : Nat
  state : σ
  -- Rows for which there was no room yet
  pending : List (Nat × Row)
  -- What happens now, in this order
  ready : List Task
  -- What happens later, with its time
  agenda : List (Nat × Task)

namespace Schedule

def progress (s : Schedule σ) : Progress σ := ⟨s.traffic.index, s.now, s.state⟩

def fill (s : Schedule σ) : Schedule σ :=
  match s.pending with
  | [] => s
  | (i, row) :: pending => { s with pending, ready := s.ready ++ [.start i row] }

def release (s : Schedule σ) (f : Flight) : Schedule σ :=
  let next := (f.ticket.bind fun ticket => s.traffic.holder? ticket.lock).map .proceed
  fill { s with ready := s.ready ++ next.toList }

-- Puts a task on the agenda. One that is due at once comes before anything else.
def later (s : Schedule σ) (wait : Nat) (task : Task) : Schedule σ :=
  if wait = 0 then { s with ready := task :: s.ready }
  else { s with agenda := s.agenda ++ [(s.now + wait, task)] }

def settle (policy : RetryPolicy) (p : UpsertPlan) (s : Schedule σ) (row : Nat) (answer : Except BoardFault String)
    (clock : Nat) : Schedule σ :=
  match s.traffic.flight? row, s.traffic.advance p policy (.answered row answer) with
  | some f, some traffic =>
    let s := { s with traffic }
    match f.phase, answer with
    | .calling _ attempt, .error fault => match policy.next? fault attempt clock with
      | some wait => s.later wait (.resume row)
      | none => release s f
    | _, _ => release s f
  | _, _ => s

def call (board : Board σ) (p : UpsertPlan) (s : Schedule σ) (row : Nat) : Schedule σ :=
  match s.traffic.calling? row with
  | some write =>
    let a := board.write s.now p.boardId write s.state
    { s with state := a.after }.later a.duration (.answer row a.answer a.clock)
  | none => s

def carryOn (board : Board σ) (policy : RetryPolicy) (p : UpsertPlan) (s : Schedule σ) (row : Nat)
    (event : Traffic.Event) : Schedule σ :=
  match s.traffic.advance p policy event with
  | some traffic => call board p { s with traffic } row
  | none => s

def perform (board : Board σ) (stopsAt : StopTime σ) (policy : RetryPolicy) (p : UpsertPlan) (s : Schedule σ) :
    Task → Schedule σ
  | .start row data =>
    if s.progress.stopped stopsAt then fill s else carryOn board policy p s row (.enter row data)
  | .proceed row => carryOn board policy p s row (.proceed row)
  | .answer row answer clock => settle policy p s row answer clock
  | .resume row => carryOn board policy p s row (.resumed row)

def jump (s : Schedule σ) (time : Nat) : Schedule σ :=
  { s with now := time
           ready := (s.agenda.filter (·.1 == time)).map (·.2)
           agenda := s.agenda.filter (·.1 != time) }

def run (board : Board σ) (stopsAt : StopTime σ) (policy : RetryPolicy) (p : UpsertPlan) :
    Nat → Schedule σ → Schedule σ
  | 0, s => s
  | fuel + 1, s =>
    match s.ready with
    | task :: ready => run board stopsAt policy p fuel (perform board stopsAt policy p { s with ready } task)
    | [] => match (s.agenda.map (·.1)).min? with
      | some time => run board stopsAt policy p fuel (s.jump time)
      | none => s

def ofRows (room : Nat) (rows : List (Nat × Row)) (s : Progress σ) : Schedule σ :=
  ⟨.start s.index, s.now, s.state, rows.drop room, (rows.take room).map fun (i, row) => .start i row, []⟩

-- More steps than there can be: a row starts and proceeds once, each of its attempts is answered and resumed at most
-- once, and the clock jumps at most once for each entry of the agenda.
def steps (policy : RetryPolicy) (rows : Nat) : Nat := rows * (4 * (policy.maxRetries.toNat + 2)) + 1

end Schedule

def insertOutcome (o : RowOutcome) : List RowOutcome → List RowOutcome
  | [] => [o]
  | first :: rest => if o.row ≤ first.row then o :: first :: rest else first :: insertOutcome o rest

def upsertTogether (board : Board σ) (stopsAt : StopTime σ) (policy : RetryPolicy) (p : UpsertPlan) (room : Nat)
    (rows : List (Nat × Row)) (s : Progress σ) : List RowOutcome × Progress σ :=
  let done := (Schedule.ofRows room rows s).run board stopsAt policy p (Schedule.steps policy rows.length)
  (done.traffic.ended.foldr insertOutcome [], done.progress)

end TidyRows
