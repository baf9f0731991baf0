import TidyRows.Calendar.Date
import TidyRows.Number.Literal
import TidyRows.Settings.Tree
import TidyRows.Text.Words
import TidyRows.Value.Read
namespace TidyRows
namespace Toml

def isLiteralChar (c : Char) : Bool :=
  Unicode.isAsciiLetter c || isDigit c || c = '+' || c = '-' || c = '_' || c = '.' || c = ':'

def ungrouped? (isDigitChar : Char → Bool) (cs : List Char) : Option (List Char) :=
  let parts := Text.splitAt '_' cs
  if parts.all fun p => !p.isEmpty && p.all isDigitChar then some parts.flatten else none

def wholeDigits? (cs : List Char) : Option (List Char) :=
  (ungrouped? isDigit cs).filter fun ds => ds.length = 1 || !Text.startsWith ds ['0']

def word? (n : Int) : Option Setting := if -0x8000000000000000 ≤ n ∧ n < 0x8000000000000000 then some (.whole n) else none

def decimalWhole? (cs : List Char) : Option Setting := do
  let (negative, digits) := takeSign cs
  let n := digitsValue 0 (← wholeDigits? digits)
  word? (if negative then -(n : Int) else n)

def digitOf (c : Char) : Nat := (Read.hexValue? c).getD 0

def basedWhole? (base : Nat) (cs : List Char) : Option Setting := do
  let digits ← ungrouped? (fun c => (Read.hexValue? c).any (· < base)) cs
  word? (digits.foldl (fun n c => base * n + digitOf c) 0)

def whole? : List Char → Option Setting
  | '0' :: 'x' :: rest => basedWhole? 16 rest
  | '0' :: 'o' :: rest => basedWhole? 8 rest
  | '0' :: 'b' :: rest => basedWhole? 2 rest
  | cs => decimalWhole? cs

def fraction? : Option (List Char) → Option (List Char)
  | none => some []
  | some cs => ungrouped? isDigit cs

def exponent? : List Char → Option Int
  | [] => some 0
  | _ :: cs => do
    let (negative, digits) := takeSign cs
    let n := digitsValue 0 (← ungrouped? isDigit digits)
    some (if negative then -(n : Int) else n)

def isExponentMark (c : Char) : Bool := c = 'e' || c = 'E'

-- A decimal with a fraction, an exponent or both. One that is too large is refused.
def decimalReal? (cs : List Char) : Option Setting := do
  let (negative, body) := takeSign cs
  let mantissa := body.takeWhile fun c => !isExponentMark c
  let scale := body.drop mantissa.length
  let (whole, fraction) := match Text.splitFirst '.' mantissa with
    | some (w, f) => (w, some f)
    | none => (mantissa, none)
  if fraction.isNone && scale.isEmpty then none
  else
    let whole ← wholeDigits? whole
    let fraction ← fraction? fraction
    let exponent ← exponent? scale
    match Double.ofDecimal negative (digitsValue (digitsValue 0 whole) fraction) (exponent - fraction.length) with
    | .infinite false => none
    | x => some (.real x)

def specialReal? (cs : List Char) : Option Setting :=
  let (negative, body) := takeSign cs
  if body = ['i', 'n', 'f'] then some (.real (.infinite negative))
  else if body = ['n', 'a', 'n'] then some (.real .nan)
  else none

def flag? (cs : List Char) : Option Setting :=
  if cs = ['t', 'r', 'u', 'e'] then some (.flag true)
  else if cs = ['f', 'a', 'l', 's', 'e'] then some (.flag false)
  else none

def two? (least most : Nat) (cs : List Char) : Option Nat :=
  if cs.length = 2 then (natOfText? cs).filter fun n => least ≤ n && n ≤ most else none

def isDate (cs : List Char) : Bool :=
  match Text.splitAt '-' cs with
  | [year, month, day] => match natOfText? year, two? 1 12 month, two? 1 31 day with
    | some y, some m, some d => year.length = 4 && (Date.ofParts? y m d).isSome
    | _, _, _ => false
  | _ => false

-- Hours, minutes and seconds, with or without a fraction. A minute may have a leap second.
def isTime (cs : List Char) : Bool :=
  let (clock, fraction) := match Text.splitFirst '.' cs with
    | some (c, f) => (c, some f)
    | none => (cs, none)
  match Text.splitAt ':' clock with
  | [hour, minute, second] =>
    (two? 0 23 hour).isSome && (two? 0 59 minute).isSome && (two? 0 60 second).isSome
      && fraction.all fun f => !f.isEmpty && f.all isDigit
  | _ => false

def isOffset (cs : List Char) : Bool :=
  match Text.splitAt ':' cs with
  | [hour, minute] => (two? 0 23 hour).isSome && (two? 0 59 minute).isSome
  | _ => false

def isZonedTime (cs : List Char) : Bool :=
  let clock := cs.takeWhile fun c => isDigit c || c = ':' || c = '.'
  isTime clock && match cs.drop clock.length with
    | [] => true
    | ['Z'] => true
    | ['z'] => true
    | '+' :: offset => isOffset offset
    | '-' :: offset => isOffset offset
    | _ => false

def dateLength : Nat := 10

def isMoment (cs : List Char) : Bool :=
  isDate cs || isTime cs || (isDate (cs.take dateLength) && match cs.drop dateLength with
    | 'T' :: time => isZonedTime time
    | 't' :: time => isZonedTime time
    | _ => false)

def moment? (cs : List Char) : Option Setting :=
  if isMoment cs then some (.moment (String.ofList cs)) else none

def literalOf? (cs : List Char) : Option Setting :=
  flag? cs <|> whole? cs <|> decimalReal? cs <|> specialReal? cs <|> moment? cs

def timeAfter? (date rest : List Char) : Option (Setting × List Char) :=
  match rest with
  | ' ' :: rest =>
    let time := rest.takeWhile isLiteralChar
    if isDate date && isZonedTime time then
      some (.moment (String.ofList (date ++ 'T' :: time)), rest.drop time.length)
    else none
  | _ => none

def literal? (cs : List Char) : Option (Setting × List Char) :=
  let token := cs.takeWhile isLiteralChar
  let rest := cs.drop token.length
  timeAfter? token rest <|> (literalOf? token).map (·, rest)

end Toml
end TidyRows
