import TidyRows.Value.Written
namespace TidyRows
namespace Csv

abbrev Line := List (List Char)

def isSpecial (c : Char) : Bool := c = ',' || c = '"' || c = '\r' || c = '\n'

def doubled (c : Char) : List Char := if c = '"' then ['"', '"'] else [c]

def cellChars (cell : List Char) : List Char :=
  if cell.any isSpecial then '"' :: cell.flatMap doubled ++ ['"'] else cell

def separated : List (List Char) → List Char
  | [] => []
  | [cell] => cell
  | cell :: rest => cell ++ ',' :: separated rest

-- A line that would show nothing shows an empty pair of quotes, since blank lines are no lines.
def lineChars (line : Line) : List Char :=
  let shown := separated (line.map cellChars)
  (if shown.isEmpty then ['"', '"'] else shown) ++ ['\n']

def header (rows : List Row) : List String := (Keyed.ofList (rows.flatMap (·.entries))).names

def rowLine (fields : List String) (row : Row) : Line := fields.map fun f => (cellText (row.get? f)).toList

def headerLine : List String → List Line
  | [] => []
  | fields => [fields.map (·.toList)]

def lines (rows : List Row) : List Line := headerLine (header rows) ++ rows.map (rowLine (header rows))

def ofRows (rows : List Row) : String := String.ofList ((lines rows).flatMap lineChars)

end Csv
end TidyRows
