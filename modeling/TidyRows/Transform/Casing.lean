import TidyRows.Unicode.Casing
import TidyRows.Text.Words
namespace TidyRows.Transform
open Unicode (isBlank)

def titleFrom (atStart : Bool) : List Char → List Char
  | [] => []
  | c :: rest =>
    if isBlank c then c :: titleFrom true rest
    else if atStart then Unicode.upperOf c ++ titleFrom false rest
    else Unicode.lowerOf c ++ titleFrom false rest

def titleCase (cs : List Char) : List Char := titleFrom true cs

def collapseBlanks (cs : List Char) : List Char := Text.joinWith [' '] (Text.words cs)

def isInvisible (c : Char) : Bool :=
  [0x200B, 0x200C, 0x200D, 0x2060, 0xFEFF, 0xAD].contains c.toNat || Unicode.isControl c

def dropInvisible (cs : List Char) : List Char := cs.filter fun c => !isInvisible c

-- The whole name trimmed, its first word, and the other words. A blank name has no parts.
def splitName (cs : List Char) : Option (List Char × List Char × List Char) :=
  match Text.words cs with
  | [] => none
  | first :: rest => some (Text.trim cs, first, Text.joinWith [' '] rest)

end TidyRows.Transform
