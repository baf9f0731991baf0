import TidyRows.Csv.Written
namespace TidyRows
namespace Csv

inductive Place where
  | lineStart
  | cellStart
  | plain
  | quoted
  -- After a quote within quotes: it is one of two, or the last one
  | quoteSeen
  deriving DecidableEq, Repr

structure Reading where
  place : Place
  cell : List Char
  line : Line
  lines : List Line

namespace Reading

def start : Reading := ⟨.lineStart, [], [], []⟩

def endCell (r : Reading) : Reading :=
  { r with place := .cellStart, cell := [], line := r.cell.reverse :: r.line }

def endLine (r : Reading) : Reading :=
  let r := r.endCell
  { r with place := .lineStart, line := [], lines := r.line.reverse :: r.lines }

def add (r : Reading) (place : Place) (c : Char) : Reading := { r with place, cell := c :: r.cell }

def isLineEnd (c : Char) : Bool := c = '\r' || c = '\n'

def bare (r : Reading) (c : Char) : Reading :=
  if c = ',' then r.endCell else if isLineEnd c then r.endLine else r.add .plain c

def opening (r : Reading) (c : Char) : Reading := if c = '"' then { r with place := .quoted } else r.bare c

def step (r : Reading) (c : Char) : Reading :=
  match r.place with
  | .lineStart => if isLineEnd c then r else r.opening c
  | .cellStart => r.opening c
  | .plain => r.bare c
  | .quoted => if c = '"' then { r with place := .quoteSeen } else r.add .quoted c
  | .quoteSeen => if c = '"' then r.add .quoted c else r.bare c

def finish (r : Reading) : List Line :=
  match r.place with
  | .lineStart => r.lines.reverse
  | _ => r.endLine.lines.reverse

end Reading

def readLines (cs : List Char) : List Line := (cs.foldl Reading.step .start).finish

def byteOrderMark : Char := Char.ofNat 0xFEFF

def skipMark (cs : List Char) : List Char :=
  match cs with
  | c :: rest => if c = byteOrderMark then rest else cs
  | [] => []

-- A field that is named twice has its last cell.
def rowOfLine (fields line : Line) : Row :=
  .ofList ((fields.zip line).map fun (f, c) => (String.ofList f, .text (String.ofList c)))

-- No rows unless all lines have as many cells as the first one.
def toRows? (text : String) : Option (List Row) :=
  match readLines (skipMark text.toList) with
  | [] => some []
  | fields :: rest =>
    if rest.all (·.length == fields.length) then some (rest.map (rowOfLine fields)) else none

end Csv
end TidyRows
