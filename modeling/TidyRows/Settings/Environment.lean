import TidyRows.Number.Literal
import TidyRows.Settings.Tree
import TidyRows.Text.Words
import TidyRows.Toml.Text
namespace TidyRows
namespace Environment

def commonStart : List Char := "RECIPE_ENGINE_".toList

def separator : List Char := ['_', '_']

-- The parts of the name of a setting, if a variable is one. An empty part ends the name.
def path? (fullName : List Char) : Option (List String) :=
  let name := (Text.trim fullName).map lowerAscii
  let start := commonStart.map lowerAscii
  if Text.startsWith name start then
    let parts := Text.splitAt '.' (Text.replaceAll separator ['.'] (name.drop start.length))
    match parts.takeWhile fun part => !part.isEmpty with
    | [] => none
    | named => some (named.map String.ofList)
  else none

def isSpace (c : Char) : Bool := c = ' ' || c = '\t' || c = '\n' || c = '\r' || c.toNat = 12

def singleQuote : Char := Char.ofNat 39

def isBrace (c : Char) : Bool := c = Char.ofNat 0x7B || c = Char.ofNat 0x7D

def isSeparator (c : Char) : Bool := c = ',' || c = '[' || c = ']' || isBrace c

def isKeyChar (c : Char) : Bool := Unicode.isAsciiLetter c || isDigit c || c = '_' || c = '-'

def skipSpaces (cs : List Char) : List Char := cs.dropWhile isSpace

def quoted? (cs : List Char) : Option (String × List Char) := do
  let (s, after) ← Toml.untilMark Toml.quote true false cs
  Toml.finished (Toml.resolve false .text s) after

def single? : List Char → Option (String × List Char)
  | c :: mark :: rest => if mark = singleQuote then some (String.ofList [c], rest) else none
  | _ => none

def word? (cs : List Char) : Option Setting :=
  let digits := match cs with
    | '+' :: digits => digits
    | digits => digits
  match natOfText? digits, intOfText? cs with
  | some n, _ => if n < 0x10000000000000000 then some (.whole n) else none
  | none, some n => if -0x8000000000000000 ≤ n ∧ n < 0x8000000000000000 then some (.whole n) else none
  | none, none => none

def bare (cs : List Char) : Setting :=
  let cs := Text.trim cs
  let real := if cs.contains '.' then (Double.ofText? cs).map Setting.real else none
  ((real.or (word? cs)).getD (.text (String.ofList cs)))

def key? (cs : List Char) : Option (String × List Char) :=
  match cs with
  | [] => none
  | c :: rest =>
    if c = Toml.quote then quoted? rest
    else
      let name := cs.takeWhile isKeyChar
      if name.isEmpty then none else some (String.ofList name, cs.drop name.length)

def dropWord? (word cs : List Char) : Option (List Char) :=
  if Text.startsWith cs word then some (cs.drop word.length) else none

mutual
def value? : Nat → List Char → Option (Setting × List Char)
  | 0, _ => none
  | fuel + 1, cs => do
    let cs := skipSpaces cs
    let (v, rest) ←
      match dropWord? ['t', 'r', 'u', 'e'] cs, dropWord? ['f', 'a', 'l', 's', 'e'] cs, cs with
      | some rest, _, _ => some (Setting.flag true, rest)
      | none, some rest, _ => some (Setting.flag false, rest)
      | none, none, c :: rest =>
        if c = Toml.quote then (quoted? rest).map fun (s, rest) => (Setting.text s, rest)
        else if c = singleQuote then (single? rest).map fun (s, rest) => (Setting.text s, rest)
        else if c = '[' then (elements? fuel rest).map fun (vs, rest) => (Setting.list vs, rest)
        else if c = Char.ofNat 0x7B then (members? fuel rest).map fun (fs, rest) => (Setting.table fs, rest)
        else
          let own := cs.takeWhile fun c => !isSeparator c
          some (bare own, cs.drop own.length)
      | none, none, [] => some (Setting.text "", [])
    some (v, skipSpaces rest)

def elements? : Nat → List Char → Option (List Setting × List Char)
  | 0, _ => none
  | fuel + 1, cs =>
    match skipSpaces cs with
    | ']' :: rest => some ([], rest)
    | cs => do
      let (v, rest) ← value? fuel cs
      match rest with
      | ']' :: rest => some ([v], rest)
      | ',' :: rest => do
        let (vs, rest) ← elements? fuel rest
        some (v :: vs, rest)
      | _ => none

def members? : Nat → List Char → Option (List (String × Setting) × List Char)
  | 0, _ => none
  | fuel + 1, cs => do
    match skipSpaces cs with
    | [] => none
    | c :: rest =>
      if c = Char.ofNat 0x7D then some ([], rest)
      else
        let (name, rest) ← key? (c :: rest)
        match skipSpaces rest with
        | '=' :: rest => do
          let (v, rest) ← value? fuel rest
          match rest with
          | ',' :: rest => do
            let (fields, rest) ← members? fuel rest
            some (putEntry name ((fields.lookup name).getD v) fields, rest)
          | d :: rest => if d = Char.ofNat 0x7D then some ([(name, v)], rest) else none
          | [] => none
        | _ => none
end

-- A text that is no value as a whole stands for itself.
def valueOf (s : String) : Setting :=
  let cs := s.toList
  match value? (2 * cs.length + 2) cs with
  | some (v, []) => v
  | _ => .text s

def ofVariable (v : String × String) : Option Setting :=
  (path? v.1.toList).map fun path => .nested path (valueOf v.2)

def toSetting (environment : List (String × String)) : Setting :=
  (environment.filterMap ofVariable).foldl Setting.laidOver (.table [])

end Environment
end TidyRows
