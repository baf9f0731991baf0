import TidyRows.Toml.Text
import TidyRows.Number.Notation
import TidyRows.Value.Written
namespace TidyRows
namespace Toml

structure TextNeeds where
  quotes : Nat
  apostrophes : Nat
  controls : Bool
  backslash : Bool
  lineEnd : Bool

def longestRun (c : Char) : (current longest : Nat) → List Char → Nat
  | _, longest, [] => longest
  | current, longest, d :: rest =>
    if d = c then longestRun c (current + 1) (max longest (current + 1)) rest else longestRun c 0 longest rest

def TextNeeds.of (s : List Char) : TextNeeds where
  quotes := longestRun quote 0 0 s
  apostrophes := longestRun apostrophe 0 0 s
  controls := s.any fun c => !isPrintable c && c ≠ '\n'
  backslash := s.contains '\\'
  lineEnd := s.contains '\n'

inductive TextForm where
  | quoted
  | verbatim
  | quotedLines
  | verbatimLines
  deriving DecidableEq, Repr

def TextForm.of (s : List Char) : TextForm :=
  let n := TextNeeds.of s
  if !n.controls && !n.backslash && n.quotes = 0 && !n.lineEnd then .quoted
  else if !n.controls && n.apostrophes = 0 && !n.lineEnd then .verbatim
  else if !n.controls && !n.backslash && n.quotes ≤ 2 then .quotedLines
  else if !n.controls && n.apostrophes ≤ 2 then .verbatimLines
  else if n.lineEnd then .quotedLines
  else .quoted

def upperHex4 (n : Nat) : List Char := (hexText4 n).map upperAscii

def escaped (lines : Bool) (c : Char) : List Char :=
  if c.toNat = 8 then ['\\', 'b']
  else if c = '\t' then ['\\', 't']
  else if c = '\n' then if lines then [c] else ['\\', 'n']
  else if c.toNat = 12 then ['\\', 'f']
  else if c = '\r' then ['\\', 'r']
  else if c = '\\' then ['\\', '\\']
  else if isPrintable c then [c]
  else '\\' :: 'u' :: upperHex4 c.toNat

-- Quotes are escaped beyond the number of them that may stand together.
def escapedFrom (lines : Bool) : (together : Nat) → List Char → List Char
  | _, [] => []
  | together, c :: rest =>
    if c = quote then
      if together < (if lines then 2 else 0) then c :: escapedFrom lines (together + 1) rest
      else '\\' :: c :: escapedFrom lines 0 rest
    else escaped lines c ++ escapedFrom lines 0 rest

def threeOf (mark : Char) : List Char := List.replicate 3 mark

def firstLineEnd (s : List Char) : List Char := if s.contains '\n' then ['\n'] else []

def textChars (s : List Char) : List Char :=
  match TextForm.of s with
  | .quoted => quote :: escapedFrom false 0 s ++ [quote]
  | .verbatim => apostrophe :: s ++ [apostrophe]
  | .quotedLines =>
    threeOf quote ++ firstLineEnd s ++ escapedFrom true 0 s ++ threeOf quote
  | .verbatimLines => threeOf apostrophe ++ firstLineEnd s ++ s ++ threeOf apostrophe

-- A number always shows that it is not a whole one of its own kind.
def realChars : Double → List Char
  | .nan => ['n', 'a', 'n']
  | .infinite s => signText s ++ ['i', 'n', 'f']
  | .finite x => if x.isWhole then x.plainText ++ ['.', '0'] else x.plainText

inductive Scalar where
  | text (s : String)
  | whole (n : Nat)
  | real (x : Double)
  | flag (b : Bool)

def wholeLimit : Nat := 0x8000000000000000

def Scalar.chars? : Scalar → Option (List Char)
  | text s => some (textChars s.toList)
  | whole n => if n < wholeLimit then some (natText n) else none
  | real x => some (realChars x)
  | flag b => some (if b then ['t', 'r', 'u', 'e'] else ['f', 'a', 'l', 's', 'e'])

structure Section where
  name : String
  lines : List (String × Scalar)

def lineChars? (line : String × Scalar) : Option (List Char) :=
  line.2.chars?.map fun cs => line.1.toList ++ [' ', '=', ' '] ++ cs ++ ['\n']

def Section.chars? (s : Section) : Option (List Char) :=
  (s.lines.mapM lineChars?).map fun lines => '[' :: s.name.toList ++ [']', '\n'] ++ lines.flatten

-- Sections with a blank line between them. Whole numbers that do not fit a signed word have no written form.
def written? (sections : List Section) : Option String :=
  (sections.mapM Section.chars?).map fun parts => String.ofList (['\n'].intercalate parts)

end Toml
end TidyRows
