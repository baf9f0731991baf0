import TidyRows.Number.Double
import TidyRows.Recipe.Basic
namespace TidyRows.Similarity

def markFirst (c : Char) (start stop : Nat) : Nat → List (Char × Bool) → Option (List (Char × Bool))
  | _, [] => none
  | j, (d, taken) :: rest =>
    if start ≤ j && j < stop && !taken && c == d then some ((d, true) :: rest)
    else (markFirst c start stop (j + 1) rest).map ((d, taken) :: ·)

-- The characters of `a` that find an equal one within `window` places in `b`, and the marks on `b`. Each character of
-- `b` is found at most once.
def matchFrom (window : Nat) : Nat → List Char → List (Char × Bool) → List Char × List (Char × Bool)
  | _, [], marked => ([], marked)
  | i, c :: rest, marked =>
    match markFirst c (i - window) (i + window + 1) 0 marked with
    | some marked =>
      let (found, marked) := matchFrom window (i + 1) rest marked
      (c :: found, marked)
    | none => matchFrom window (i + 1) rest marked

def matchWindow (a b : List Char) : Nat := max a.length b.length / 2 - 1

def matching (a b : List Char) : List Char × List Char :=
  let (found, marked) := matchFrom (matchWindow a b) 0 a (b.map (·, false))
  (found, (marked.filter (·.2)).map (·.1))

def transpositions (found other : List Char) : Nat := (found.zip other).countP fun (c, d) => c != d

def jaro (a b : List Char) : Double :=
  if a.isEmpty && b.isEmpty then .one
  else
    let (found, other) := matching a b
    if found.isEmpty then .zero
    else
      let m := Double.ofNat found.length
      let t := Double.ofNat (transpositions found other)
      (m / Double.ofNat a.length + m / Double.ofNat b.length + (m - t / Double.ofNat 2) / m) / Double.ofNat 3

def leadLimit : Nat := 4

-- What each equal leading character adds, in parts of what is missing to one.
def leadScale : Double := Double.ofRatio false 1 10

def commonLead (a b : List Char) : Nat := (((a.zip b).take leadLimit).takeWhile fun (c, d) => c == d).length

def jaroWinklerScore (a b : List Char) : Double :=
  let base := jaro a b
  Double.minNumber (base + leadScale * Double.ofNat (commonLead a b) * (.one - base)) .one

-- `diagonal` and `left` are the distances before the current column in the last and this row.
def nextRow (a : Char) (diagonal left : Nat) : List Char → List Nat → List Nat
  | b :: bs, above :: last =>
    let here := min (min (above + 1) (left + 1)) (diagonal + if a = b then 0 else 1)
    here :: nextRow a above here bs last
  | _, _ => []

def rowsFrom (b : List Char) : Nat → List Nat → List Char → List Nat
  | _, row, [] => row
  | i, row, a :: as =>
    rowsFrom b (i + 1) ((i + 1) :: nextRow a (row.head?.getD 0) (i + 1) b (row.drop 1)) as

def distance (a b : List Char) : Nat :=
  (rowsFrom b 0 (List.range (b.length + 1)) a).getLast?.getD 0

def levenshteinScore (a b : List Char) : Double :=
  let longest := max a.length b.length
  if longest = 0 then .one else .one - Double.ofNat (distance a b) / Double.ofNat longest

def score (algorithm : Similarity) (a b : List Char) : Double :=
  match algorithm with
  | .jaroWinkler => jaroWinklerScore a b
  | .levenshtein => levenshteinScore a b

end TidyRows.Similarity
