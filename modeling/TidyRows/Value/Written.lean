import TidyRows.Number.Notation
import TidyRows.Value.Basic
namespace TidyRows

def hexDigit (n : Nat) : Char := if n < 10 then Char.ofNat (48 + n) else Char.ofNat (87 + n)

def hexText4 (n : Nat) : List Char :=
  [hexDigit (n / 4096 % 16), hexDigit (n / 256 % 16), hexDigit (n / 16 % 16), hexDigit (n % 16)]

namespace Written

def escaped (c : Char) : List Char :=
  if c = '"' then ['\\', '"']
  else if c = '\\' then ['\\', '\\']
  else if c = '\n' then ['\\', 'n']
  else if c = '\r' then ['\\', 'r']
  else if c = '\t' then ['\\', 't']
  else if c.toNat = 8 then ['\\', 'b']
  else if c.toNat = 12 then ['\\', 'f']
  else if c.toNat < 32 then '\\' :: 'u' :: hexText4 c.toNat
  else [c]

def quoted (s : List Char) : List Char := '"' :: s.flatMap escaped ++ ['"']

def separated : List (List Char) → List Char
  | [] => []
  | [p] => p
  | p :: rest => p ++ ',' :: separated rest

mutual
def chars : Value → List Char
  | .null => ['n', 'u', 'l', 'l']
  | .bool true => ['t', 'r', 'u', 'e']
  | .bool false => ['f', 'a', 'l', 's', 'e']
  | .whole n => intText n.val
  | .real x => x.dataText
  | .text s => quoted s.toList
  | .list vs => '[' :: separated (items vs) ++ [']']
  | .record fields => '{' :: separated (members fields) ++ ['}']

def items : List Value → List (List Char)
  | [] => []
  | v :: rest => chars v :: items rest

def members : List (String × Value) → List (List Char)
  | [] => []
  | (name, v) :: rest => (quoted name.toList ++ ':' :: chars v) :: members rest
end

end Written

def Value.written (v : Value) : String := String.ofList (Written.chars v)

-- The text of a cell: strings as they are, null as nothing, all else in its written form.
def Value.cellText : Value → String
  | .null => ""
  | .text s => s
  | v => v.written

def cellText : Option Value → String
  | none => ""
  | some v => v.cellText

end TidyRows
