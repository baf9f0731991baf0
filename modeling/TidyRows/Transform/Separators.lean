import TidyRows.Number.Literal
import TidyRows.Value.Basic
import TidyRows.Unicode.Casing
import TidyRows.Text.Words
namespace TidyRows

structure Separators where
  group : Char
  decimal : Char
  deriving DecidableEq, Repr

namespace Separators

def english : Separators := ⟨',', '.'⟩
def continental : Separators := ⟨'.', ','⟩
def spaced : Separators := ⟨' ', ','⟩
def swiss : Separators := ⟨Char.ofNat 39, '.'⟩

def spacedLanguages : List String := ["fr", "ru", "pl", "sv", "fi", "nb", "no", "cs", "sk", "uk", "hu"]
def continentalLanguages : List String := ["de", "es", "it", "pt", "nl", "id", "tr", "da", "el", "ro", "hr"]

def ofLocale (locale : List Char) : Separators :=
  let parts := Text.splitAt '-' (Unicode.lower (locale.map fun c => if c = '_' then '-' else c))
  let language := String.ofList (parts.head?.getD [])
  let region := String.ofList ((parts.drop 1).head?.getD [])
  if region == "ch" && ["de", "it", "fr"].contains language then swiss
  else if language == "en" && region == "za" then spaced
  else if language == "es" && region == "mx" then english
  else if spacedLanguages.contains language then spaced
  else if continentalLanguages.contains language then continental
  else english

def afterLast (mark : Char) (cs : List Char) : List Char := (cs.reverse.takeWhile (· != mark)).reverse

def digitsAfterLast (mark : Char) (cs : List Char) : Nat := (afterLast mark cs).countP isDigit

-- A guess from the text. Of two marks the last is the decimal one. A comma alone groups when it is repeated or followed
-- by three digits; a point alone groups when both hold.
def detect (cs : List Char) : Separators :=
  let points := cs.count '.'
  let commas := cs.count ','
  if points = 0 then
    if commas = 0 || 1 < commas || digitsAfterLast ',' cs = 3 then english else continental
  else if commas = 0 then
    if 1 < points && digitsAfterLast '.' cs = 3 then continental else english
  else if (afterLast ',' cs).contains '.' then english
  else continental

-- Whether the character only groups digits. A grouping space stands for any blank.
def groups (s : Separators) (c : Char) : Bool := c = s.group || (s.group = ' ' && Unicode.isBlank c)

def plain (s : Separators) (cs : List Char) : List Char :=
  (cs.filter fun c => !s.groups c).map fun c => if c = s.decimal then '.' else c

end Separators

namespace Transform

def currencySigns : List Char := ['$', '€', '£', '¥', '₹', Char.ofNat 0xA0, Char.ofNat 0x202F]

def parenthesised? : List Char → Option (List Char)
  | '(' :: rest => match rest.reverse with
    | ')' :: inner => some inner.reverse
    | _ => none
  | _ => none

def isPlainNumber (cs : List Char) : Bool :=
  let body := match cs with
    | '-' :: rest => rest
    | rest => rest
  body.all (fun c => isDigit c || c = '.') && body.count '.' ≤ 1 && body.any isDigit

def readNumber (locale : Option String) (text : List Char) : Option Double :=
  let trimmed := Text.trim text
  let inner := (parenthesised? trimmed).getD trimmed
  let stripped := Text.trim (inner.filter fun c => !currencySigns.contains c)
  let separators := match locale with
    | some l => Separators.ofLocale l.toList
    | none => Separators.detect stripped
  let canonical := match separators.plain stripped with
    | '+' :: rest => rest
    | rest => rest
  if isPlainNumber canonical then
    match Double.ofText? canonical with
    | some (.finite x) => some (.finite (if (parenthesised? trimmed).isSome then x.neg else x))
    | _ => none
  else none

def numberOf (locale : Option String) : Value → Option Double
  | .text s => readNumber locale s.toList
  | v => v.number?

end Transform
end TidyRows
