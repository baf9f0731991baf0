import TidyRows.Upsert.Schedule
namespace TidyRows

def batchesFrom (size : Nat) : List α → List α → List (List α)
  | [], current => if current.isEmpty then [] else [current]
  | a :: rest, current =>
    if size ≤ current.length + 1 then (current ++ [a]) :: batchesFrom size rest []
    else batchesFrom size rest (current ++ [a])

def batches (size : Nat) (as : List α) : List (List α) := batchesFrom size as []

def numbered (rows : List Row) : List (Nat × Row) := rows.zipIdx.map fun (row, i) => (i, row)

-- A pause ends early when the run is called off.
def Progress.pause (s : Progress σ) (stopsAt : StopTime σ) (length : Nat) : Progress σ :=
  let finish := s.now + length
  match stopsAt s.state with
  | some time => { s with now := max s.now (min time finish) }
  | none => { s with now := finish }

namespace Upsert

def batch (board : Board σ) (stopsAt : StopTime σ) (settings : UpsertSettings) (p : UpsertPlan)
    (rows : List (Nat × Row)) (s : Progress σ) : List RowOutcome × Progress σ :=
  if settings.concurrency ≤ 1 then upsertInTurn board stopsAt settings.retryPolicy p rows s
  else upsertTogether board stopsAt settings.retryPolicy p settings.concurrency rows s

def broken (policy : RetryPolicy) (outcomes : List RowOutcome) : Bool := outcomes.any (·.breaks policy)

-- A batch that did not get through all its rows was called off. An overflow takes the whole run with it: that of the
-- attempts comes with the first row, that of a wait with any row. The latter is looked for behind the batch, and the
-- board may by then have had calls for other rows to which the run would not have come.
def allBatches (board : Board σ) (stopsAt : StopTime σ) (settings : UpsertSettings) (p : UpsertPlan) :
    (first : Bool) → List (List (Nat × Row)) → UpsertResult → Progress σ → Except Fault UpsertResult × Progress σ
  | _, [], r, s => (.ok r, s)
  | first, rows :: rest, r, s =>
    let s := if first then s else s.pause stopsAt settings.batchDelay.millisUp
    if s.stopped stopsAt then (.ok { r with cancelled := true }, s)
    else if settings.retryPolicy.attempts?.isNone then (.error .overflow, s)
    else
      let (outcomes, s) := batch board stopsAt settings p rows s
      if broken settings.retryPolicy outcomes then (.error .overflow, s)
      else
        let r := outcomes.foldl .record r
        if outcomes.length < rows.length then (.ok { r with cancelled := true }, s)
        else allBatches board stopsAt settings p false rest r s

def snapshot (board : Board σ) (limit : Nat) (p : UpsertPlan) (now : Nat) (state : σ) :
    Answered KeyIndex σ :=
  match p.key with
  | none => ⟨.ok .empty, 0, 0, state⟩
  | some (_, column) =>
    let a := board.fetch now p.boardId column limit state
    ⟨a.answer.map KeyIndex.ofItems, a.duration, a.clock, a.after⟩

structure Ended (σ : Type) where
  result : Except Fault UpsertResult
  now : Nat
  state : σ

def run (board : Board σ) (stopsAt : StopTime σ) (settings : UpsertSettings) (target : WriteBack)
    (rows : List Row) (now : Nat) (state : σ) : Ended σ :=
  match UpsertPlan.ofTarget target with
  | .error fault => ⟨.error fault, now, state⟩
  | .ok p =>
    let a := snapshot board settings.itemLimit p now state
    let now := now + a.duration
    match a.answer with
    | .error fault => ⟨.error (.board fault), now, a.after⟩
    | .ok index =>
      let (r, s) := allBatches board stopsAt settings p true (batches (max settings.batchSize 1) (numbered rows))
        .empty ⟨index, now, a.after⟩
      ⟨r, s.now, s.state⟩

end Upsert
end TidyRows
