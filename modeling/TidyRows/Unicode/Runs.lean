namespace TidyRows.Unicode

abbrev Runs := List Nat

-- Whether the code point `n` places after the start of the runs is inside.
def Runs.holds : Runs → Nat → Bool
  | out :: within :: rest, n =>
    if n < out then false else if n - out < within then true else Runs.holds rest (n - out - within)
  | _, _ => false

-- The same code points without runs of no length between two others.
def Runs.joined : Runs → Runs
  | out :: within :: rest => match within, Runs.joined rest with
    | 0, next :: rest => (out + next) :: rest
    | _, 0 :: next :: rest => out :: (within + next) :: rest
    | _, rest => out :: within :: rest
  | runs => runs

def Runs.contains (runs : Runs) (c : Char) : Bool := runs.holds c.toNat

def Runs.ofLine (s : String) : Runs :=
  let step (state : List Nat × Option Nat) (c : Char) : List Nat × Option Nat :=
    match state, c == ' ' with
    | (done, some n), true => (n :: done, none)
    | (done, none), true => (done, none)
    | (done, n), false => (done, some (10 * n.getD 0 + (c.toNat - 48)))
  let (done, last) := s.toList.foldl step ([], none)
  done.reverse ++ last.toList

def Runs.ofLines (lines : List String) : Runs := lines.flatMap Runs.ofLine

end TidyRows.Unicode
