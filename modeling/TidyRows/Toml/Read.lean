import TidyRows.Toml.Literal
import TidyRows.Toml.Table
import TidyRows.Toml.Text
namespace TidyRows
namespace Toml

-- Nesting and dotted names stay below this.
def maxLevels : Nat := 80

def isBareKeyChar (c : Char) : Bool := Unicode.isAsciiLetter c || isDigit c || c = '_' || c = '-'

def skipSpaces (cs : List Char) : List Char := cs.dropWhile isSpace

def key? (cs : List Char) : Option (String × List Char) :=
  let bare := cs.takeWhile isBareKeyChar
  if bare.isEmpty then lineText? cs else some (String.ofList bare, cs.drop bare.length)

def keys? : Nat → List Char → Option (List String × List Char)
  | 0, _ => none
  | fuel + 1, cs => do
    let (name, rest) ← key? (skipSpaces cs)
    match skipSpaces rest with
    | '.' :: rest => do
      let (names, rest) ← keys? fuel rest
      some (name :: names, rest)
    | rest => some ([name], rest)

def name? (cs : List Char) : Option ((List String × String) × List Char) := do
  let (names, rest) ← keys? (maxLevels - 1) cs
  let last ← names.getLast?
  some ((names.dropLast, last), rest)

def skipComment (cs : List Char) : Option (List Char) :=
  match cs.dropWhile isPrintable with
  | [] => some []
  | '\n' :: rest => some ('\n' :: rest)
  | _ => none

def skipFiller : (inComment : Bool) → List Char → Option (List Char)
  | _, [] => some []
  | inComment, c :: rest =>
    if c = '\n' then skipFiller false rest
    else if inComment then if isPrintable c then skipFiller true rest else none
    else if isSpace c then skipFiller false rest
    else if c = '#' then skipFiller true rest
    else some (c :: rest)

mutual
def value? : (fuel levels : Nat) → List Char → Option (Setting × List Char)
  | 0, _, _ => none
  | fuel + 1, levels, cs =>
    match cs with
    | [] => none
    | c :: rest =>
      if c = quote ∨ c = apostrophe then (text? cs).map fun (s, rest) => (.text s, rest)
      else if c = '[' then
        match levels with
        | 0 => none
        | levels + 1 => (elements? fuel levels rest).map fun (vs, rest) => (.list vs, rest)
      else if c = Char.ofNat 0x7B then
        match levels with
        | 0 => none
        | levels + 1 => do
          match skipSpaces rest with
          | [] => none
          | d :: after =>
            if d = Char.ofNat 0x7D then some (.table [], after)
            else
              let (fields, rest) ← members? fuel levels [] rest
              some (.table (Node.fieldSettings fields), rest)
      else literal? cs

def elements? : (fuel levels : Nat) → List Char → Option (List Setting × List Char)
  | 0, _, _ => none
  | fuel + 1, levels, cs => do
    match ← skipFiller false cs with
    | ']' :: rest => some ([], rest)
    | cs =>
      let (v, rest) ← value? fuel levels cs
      match ← skipFiller false rest with
      | ']' :: rest => some ([v], rest)
      | ',' :: rest => do
        let (vs, rest) ← elements? fuel levels rest
        some (v :: vs, rest)
      | _ => none

def members? : (fuel levels : Nat) → Fields → List Char → Option (Fields × List Char)
  | 0, _, _, _ => none
  | fuel + 1, levels, fields, cs => do
    let ((path, name), rest) ← name? cs
    match rest with
    | '=' :: rest => do
      let (v, rest) ← value? fuel levels (skipSpaces rest)
      let fields ← Fields.insert path name v .header fields
      match skipSpaces rest with
      | ',' :: rest => members? fuel levels fields rest
      | c :: rest => if c = Char.ofNat 0x7D then some (fields, rest) else none
      | [] => none
    | _ => none
end

def endOfLine (cs : List Char) : Option (List Char) :=
  match skipSpaces cs with
  | [] => some []
  | '\n' :: rest => some rest
  | '#' :: rest => (skipComment rest).map (·.drop 1)
  | _ => none

structure Reading where
  header : List String
  fields : Fields

namespace Reading

def start : Reading := ⟨[], []⟩

def line? (r : Reading) (cs : List Char) : Option (Reading × List Char) :=
  match skipSpaces cs with
  | '[' :: '[' :: rest => do
    let ((path, name), rest) ← name? rest
    match rest with
    | ']' :: ']' :: rest => do
      some (⟨path ++ [name], ← r.fields.declareNext path name⟩, ← endOfLine rest)
    | _ => none
  | '[' :: rest => do
    let ((path, name), rest) ← name? rest
    match rest with
    | ']' :: rest => do
      some (⟨path ++ [name], ← r.fields.declare path name⟩, ← endOfLine rest)
    | _ => none
  | [] => some (r, [])
  | '\n' :: rest => some (r, rest)
  | '#' :: rest => (skipComment rest).map fun rest => (r, rest.drop 1)
  | cs => do
    let ((path, name), rest) ← name? cs
    match rest with
    | '=' :: rest => do
      let (v, rest) ← value? (2 * rest.length + 2) (maxLevels - 1) (skipSpaces rest)
      some (⟨r.header, ← r.fields.insertUnder r.header path name v⟩, ← endOfLine rest)
    | _ => none

def lines? : Nat → Reading → List Char → Option Reading
  | 0, _, _ => none
  | _, r, [] => some r
  | fuel + 1, r, cs => do
    let (r, rest) ← r.line? cs
    lines? fuel r rest

end Reading

-- A line may end with a carriage return before its line feed.
def withoutReturns : List Char → List Char
  | '\r' :: '\n' :: rest => '\n' :: withoutReturns rest
  | c :: rest => c :: withoutReturns rest
  | [] => []

def skipMark (cs : List Char) : List Char :=
  match cs with
  | c :: rest => if c = Char.ofNat 0xFEFF then rest else cs
  | [] => []

def ofText? (s : String) : Option Setting :=
  let cs := withoutReturns (skipMark s.toList)
  (Reading.start.lines? (cs.length + 1) cs).map fun r => .table (Node.fieldSettings r.fields)

end Toml
end TidyRows
