import TidyRows.Unicode.Runs
namespace TidyRows.Unicode

abbrev Coded := List (List Char × Nat)

-- One character of a written table: a letter after a number starts the next code.
def Coded.step (done : Coded) (c : Char) : Coded :=
  match done, c.isDigit with
  | (code, n) :: rest, true => (code, 10 * n + (c.toNat - 48)) :: rest
  | (code, 0) :: rest, false => (code ++ [c], 0) :: rest
  | done, _ => ([c], 0) :: done

def Coded.ofLines (lines : List String) : Coded :=
  (lines.foldl (fun done s => s.toList.foldl Coded.step done) []).reverse

def Coded.runs (table : Coded) (codes : List (List Char)) : Runs :=
  Runs.joined (table.flatMap fun (code, n) => if codes.contains code then [0, n] else [n, 0])

def looseName (cs : List Char) : List Char :=
  (cs.filter fun c => c != ' ' && c != '_' && c != '-' && c.toNat < 128).map Char.toLower

end TidyRows.Unicode
