import TidyRows.Number.Notation
namespace TidyRows

def isDigit (c : Char) : Bool := '0' ≤ c && c ≤ '9'
def digitValue (c : Char) : Nat := c.toNat - '0'.toNat

def digitsValue (start : Nat) (ds : List Char) : Nat :=
  ds.foldl (fun n c => 10 * n + digitValue c) start

def spanDigits (cs : List Char) : List Char × List Char := (cs.takeWhile isDigit, cs.dropWhile isDigit)

def takeSign : List Char → Bool × List Char
  | '-' :: r => (true, r)
  | '+' :: r => (false, r)
  | r => (false, r)

def natOfText? (cs : List Char) : Option Nat :=
  if !cs.isEmpty && cs.all isDigit then some (digitsValue 0 cs) else none

def intOfText? (cs : List Char) : Option Int :=
  let (negative, r) := takeSign cs
  (natOfText? r).map fun n => if negative then -(n : Int) else n

def lowerAscii (c : Char) : Char := if 'A' ≤ c && c ≤ 'Z' then Char.ofNat (c.toNat + 32) else c
def upperAscii (c : Char) : Char := if 'a' ≤ c && c ≤ 'z' then Char.ofNat (c.toNat - 32) else c

def Double.ofWord? (negative : Bool) (cs : List Char) : Option Double :=
  match String.ofList (cs.map lowerAscii) with
  | "inf" => some (.infinite negative)
  | "infinity" => some (.infinite negative)
  | "nan" => some .nan
  | _ => none

def exponentOfText? : List Char → Option Int
  | [] => some 0
  | c :: r => if c = 'e' ∨ c = 'E' then intOfText? r else none

def Double.ofText? (cs : List Char) : Option Double :=
  let (negative, body) := takeSign cs
  let (whole, rest) := spanDigits body
  let (fraction, rest) := match rest with
    | '.' :: r => spanDigits r
    | r => ([], r)
  if whole.isEmpty && fraction.isEmpty then ofWord? negative body
  else do
    let exponent ← exponentOfText? rest
    some (ofDecimal negative (digitsValue (digitsValue 0 whole) fraction) (exponent - fraction.length))

end TidyRows
