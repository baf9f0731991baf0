import TidyRows.Number.Literal
import TidyRows.Value.Basic
namespace TidyRows
namespace Read

def isBlank (c : Char) : Bool := c = ' ' || c = '\t' || c = '\n' || c = '\r'

def skipBlanks (cs : List Char) : List Char := cs.dropWhile isBlank

def hexValue? (c : Char) : Option Nat :=
  if '0' ≤ c ∧ c ≤ '9' then some (c.toNat - 48)
  else if 'a' ≤ c ∧ c ≤ 'f' then some (c.toNat - 87)
  else if 'A' ≤ c ∧ c ≤ 'F' then some (c.toNat - 55)
  else none

def hexNumber? (cs : List Char) : Option Nat :=
  cs.foldl (fun n c => n.bind fun n => (hexValue? c).map (16 * n + ·)) (some 0)

def hexUnit? (cs : List Char) : Option (Nat × List Char) :=
  if cs.length < 4 then none else (hexNumber? (cs.take 4)).map (·, cs.drop 4)

-- A character beyond the first plane is written as a pair of units; half a pair is refused.
def escapedUnit? (cs : List Char) : Option (Char × List Char) := do
  let (high, rest) ← hexUnit? cs
  if 0xDC00 ≤ high ∧ high ≤ 0xDFFF then none
  else if 0xD800 ≤ high ∧ high ≤ 0xDBFF then
    match rest with
    | '\\' :: 'u' :: rest =>
      let (low, rest) ← hexUnit? rest
      if 0xDC00 ≤ low ∧ low ≤ 0xDFFF then
        some (Char.ofNat (0x10000 + (high - 0xD800) * 1024 + (low - 0xDC00)), rest)
      else none
    | _ => none
  else some (Char.ofNat high, rest)

def simpleEscape? (c : Char) : Option Char :=
  if c = '"' ∨ c = '\\' ∨ c = '/' then some c
  else if c = 'b' then some (Char.ofNat 8)
  else if c = 'f' then some (Char.ofNat 12)
  else if c = 'n' then some '\n'
  else if c = 'r' then some '\r'
  else if c = 't' then some '\t'
  else none

def string? : Nat → List Char → List Char → Option (String × List Char)
  | 0, _, _ => none
  | fuel + 1, done, cs =>
    match cs with
    | [] => none
    | '"' :: rest => some (String.ofList done.reverse, rest)
    | '\\' :: 'u' :: rest => do
      let (c, rest) ← escapedUnit? rest
      string? fuel (c :: done) rest
    | '\\' :: e :: rest => do
      let c ← simpleEscape? e
      string? fuel (c :: done) rest
    | c :: rest => if c.toNat < 32 ∨ c = '\\' then none else string? fuel (c :: done) rest

def wholePart? (cs : List Char) : Option (List Char × List Char) :=
  match spanDigits cs with
  | ([], _) => none
  | ('0' :: _ :: _, _) => none
  | parts => some parts

def fractionPart? : List Char → Option (List Char × List Char)
  | '.' :: rest => match spanDigits rest with
    | ([], _) => none
    | parts => some parts
  | rest => some ([], rest)

def exponentPart? : List Char → Option (Option Int × List Char)
  | c :: rest =>
    if c = 'e' ∨ c = 'E' then
      let (negative, rest) := takeSign rest
      match spanDigits rest with
      | ([], _) => none
      | (ds, rest) =>
        let n : Int := digitsValue 0 ds
        some (some (if negative then -n else n), rest)
    else some (none, c :: rest)
  | [] => some (none, [])

def finite? : Double → Option Value
  | .finite x => some (.real x)
  | _ => none

def takeMinus : List Char → Bool × List Char
  | '-' :: rest => (true, rest)
  | rest => (false, rest)

-- A literal without fraction and exponent is a whole number if it is in range; minus zero is not.
def literal? (negative : Bool) (whole fraction : List Char) (exponent : Option Int) : Option Value :=
  let digits := digitsValue (digitsValue 0 whole) fraction
  let binary := finite? (Double.ofDecimal negative digits (exponent.getD 0 - fraction.length))
  if fraction.isEmpty && exponent.isNone && !(negative && digits == 0) then
    match Whole.ofInt? (if negative then -(digits : Int) else digits) with
    | some w => some (.whole w)
    | none => binary
  else binary

def number? (cs : List Char) : Option (Value × List Char) := do
  let (negative, cs) := takeMinus cs
  let (whole, cs) ← wholePart? cs
  let (fraction, cs) ← fractionPart? cs
  let (exponent, cs) ← exponentPart? cs
  let value ← literal? negative whole fraction exponent
  some (value, cs)

mutual
-- One value and what follows it. `levels` is how deep lists and records may still nest.
def value? : Nat → Nat → List Char → Option (Value × List Char)
  | 0, _, _ => none
  | fuel + 1, levels, cs =>
    match skipBlanks cs with
    | 'n' :: 'u' :: 'l' :: 'l' :: rest => some (.null, rest)
    | 't' :: 'r' :: 'u' :: 'e' :: rest => some (.bool true, rest)
    | 'f' :: 'a' :: 'l' :: 's' :: 'e' :: rest => some (.bool false, rest)
    | '"' :: rest => do
      let (s, rest) ← string? (rest.length + 1) [] rest
      some (.text s, rest)
    | '[' :: rest =>
      if levels = 0 then none
      else match skipBlanks rest with
        | ']' :: rest => some (.list [], rest)
        | rest => items? fuel (levels - 1) [] rest
    | '{' :: rest =>
      if levels = 0 then none
      else match skipBlanks rest with
        | '}' :: rest => some (.record [], rest)
        | rest => members? fuel (levels - 1) [] rest
    | rest => number? rest

def items? : Nat → Nat → List Value → List Char → Option (Value × List Char)
  | 0, _, _, _ => none
  | fuel + 1, levels, done, cs => do
    let (v, rest) ← value? fuel levels cs
    match skipBlanks rest with
    | ',' :: rest => items? fuel levels (v :: done) rest
    | ']' :: rest => some (.list (v :: done).reverse, rest)
    | _ => none

def members? : Nat → Nat → List (String × Value) → List Char → Option (Value × List Char)
  | 0, _, _, _ => none
  | fuel + 1, levels, done, cs =>
    match skipBlanks cs with
    | '"' :: rest => do
      let (name, rest) ← string? (rest.length + 1) [] rest
      match skipBlanks rest with
      | ':' :: rest =>
        let (v, rest) ← value? fuel levels rest
        let done := putEntry name v done
        match skipBlanks rest with
        | ',' :: rest => members? fuel levels done rest
        | '}' :: rest => some (.record done, rest)
        | _ => none
      | _ => none
    | _ => none
end

def maxLevels : Nat := 127

def document? (levels : Nat) (cs : List Char) : Option Value := do
  let (v, rest) ← value? (2 * cs.length + 2) levels cs
  if (skipBlanks rest).isEmpty then some v else none

end Read

def Value.ofText? (s : String) : Option Value := Read.document? Read.maxLevels s.toList

end TidyRows
