import TidyRows.Upsert.Plan
namespace TidyRows

structure Progress (σ : Type) where
  index : KeyIndex
  now : Nat
  state : σ

-- When a run is called off, as far as that is known.
abbrev StopTime (σ : Type) := σ → Option Nat

def Progress.stopped (s : Progress σ) (stopsAt : StopTime σ) : Bool := (stopsAt s.state).any (· ≤ s.now)

namespace KeyIndex

-- A created item belongs to the key of its row from then on.
def remember (index : KeyIndex) (key : Option String) (write : Write)
    (answer : Except BoardFault String) : KeyIndex :=
  match key, write, answer with
  | some key, .create _ _, .ok id => index.put key id
  | _, _, _ => index

end KeyIndex

def upsertRow (board : Board σ) (policy : RetryPolicy) (p : UpsertPlan) (i : Nat) (row : Row)
    (s : Progress σ) : RowOutcome × Progress σ :=
  let key := p.keyOfRow row
  let write := p.writeOf row (key.bind s.index.get?)
  let a := policy.tries (fun now => board.write now p.boardId write) s.now s.state
  (⟨i, write.action, a.answer, a.attempts⟩, ⟨s.index.remember key write a.answer, a.now, a.after⟩)

def upsertInTurn (board : Board σ) (stopsAt : StopTime σ) (policy : RetryPolicy) (p : UpsertPlan) :
    List (Nat × Row) → Progress σ → List RowOutcome × Progress σ
  | [], s => ([], s)
  | (i, row) :: rest, s =>
    if s.stopped stopsAt then ([], s)
    else
      let (o, s) := upsertRow board policy p i row s
      let (os, s) := upsertInTurn board stopsAt policy p rest s
      (o :: os, s)

end TidyRows
