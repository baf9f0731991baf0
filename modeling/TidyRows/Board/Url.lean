import TidyRows.Fault
import TidyRows.Number.Literal
import TidyRows.Text.Words
import TidyRows.Unicode.Letter
namespace TidyRows

structure Url where
  scheme : String
  host : List Char

namespace Url

def hostSchemes : List String := ["http", "https", "ws", "wss", "ftp"]

def webSchemes : List String := ["http", "https"]

def isSchemeChar (c : Char) : Bool := Unicode.isAsciiLetter c || isDigit c || c = '+' || c = '-' || c = '.'

def splitScheme (cs : List Char) : Option (List Char × List Char) :=
  match cs.takeWhile isSchemeChar, cs.dropWhile isSchemeChar with
  | first :: rest, ':' :: after =>
    if Unicode.isAsciiLetter first then some ((first :: rest).map lowerAscii, after) else none
  | _, _ => none

def isSlash (c : Char) : Bool := c = '/' || c = '\\'

def endsAuthority (c : Char) : Bool := isSlash c || c = '?' || c = '#'

def authority (cs : List Char) : List Char :=
  let whole := (cs.dropWhile isSlash).takeWhile fun c => !endsAuthority c
  match Text.splitLast '@' whole with
  | some (_, after) => after
  | none => whole

def splitHost : (inside : Bool) → List Char → List Char × List Char
  | _, [] => ([], [])
  | inside, c :: rest =>
    if c = ':' && !inside then ([], rest)
    else
      let (host, number) := splitHost (if c = '[' then true else if c = ']' then false else inside) rest
      (c :: host, number)

def isHexDigit (c : Char) : Bool := isDigit c || ('a' ≤ c && c ≤ 'f') || ('A' ≤ c && c ≤ 'F')

def isByteText (cs : List Char) : Bool :=
  match natOfText? cs with
  | some n => n < 256 && natText n == cs
  | none => false

def groupCount? : List (List Char) → Option Nat
  | [] => some 0
  | [last] =>
    if (Text.splitAt '.' last).length = 4 ∧ (Text.splitAt '.' last).all isByteText then some 2
    else if 1 ≤ last.length ∧ last.length ≤ 4 ∧ last.all isHexDigit then some 1 else none
  | group :: rest =>
    if 1 ≤ group.length ∧ group.length ≤ 4 ∧ group.all isHexDigit then (groupCount? rest).map (· + 1)
    else none

def groups (cs : List Char) : List (List Char) := if cs.isEmpty then [] else Text.splitAt ':' cs

def splitPair : List Char → Option (List Char × List Char)
  | ':' :: ':' :: rest => some ([], rest)
  | c :: rest => (splitPair rest).map fun (before, after) => (c :: before, after)
  | [] => none

-- Eight groups, or fewer with a pair of colons in the place of the others.
def isLongAddress (cs : List Char) : Bool :=
  match splitPair cs with
  | some (before, after) => match groupCount? (groups before), groupCount? (groups after) with
    | some a, some b => a + b ≤ 7
    | _, _ => false
  | none => groupCount? (groups cs) == some 8

def isForbidden (c : Char) : Bool := c.toNat ≤ 32 || c.toNat = 127 || "#%/:<>?@[\\]^|".toList.contains c

def hostFault? (host : List Char) : Option UrlFault :=
  match host with
  | [] => some .emptyHost
  | '[' :: rest => match rest.getLast? with
    | some ']' => if isLongAddress rest.dropLast then none else some .ipv6
    | _ => some .ipv6
  | _ => if host.any isForbidden then some .domain else none

def numberFault? (number : List Char) : Option UrlFault :=
  if number.isEmpty then none
  else match natOfText? number with
    | some n => if n < 65536 then none else some .number
    | none => some .number

-- Blanks around an address and line ends in it do not count.
def cleaned (cs : List Char) : List Char :=
  let isOuter (c : Char) : Bool := c.toNat ≤ 32
  (Text.dropEndWhile isOuter (cs.dropWhile isOuter)).filter fun c => !(c = '\t' || c = '\n' || c = '\r')

def ofText (s : String) : Except UrlFault Url :=
  match splitScheme (cleaned s.toList) with
  | none => .error .relative
  | some (scheme, after) =>
    if hostSchemes.contains (String.ofList scheme) then
      let (host, number) := splitHost false (authority after)
      match (hostFault? host).or (numberFault? number) with
      | some fault => .error fault
      | none => .ok ⟨String.ofList scheme, host⟩
    else .ok ⟨String.ofList scheme, []⟩

def isWeb (u : Url) : Bool := webSchemes.contains u.scheme

end Url
end TidyRows
