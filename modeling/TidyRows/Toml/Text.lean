import TidyRows.Value.Read
namespace TidyRows
namespace Toml

def quote : Char := '"'
def apostrophe : Char := Char.ofNat 39

def isSpace (c : Char) : Bool := c = ' ' || c = '\t'

def isPrintable (c : Char) : Bool := c = '\t' || (32 ≤ c.toNat && c.toNat ≠ 127)

-- The text up to the closing mark, and what follows it. With escapes, the character after a backslash closes nothing.
def untilMark (mark : Char) (escapes : Bool) : (held : Bool) → List Char → Option (List Char × List Char)
  | _, [] => none
  | held, c :: rest =>
    if !held && c = mark then some ([], rest)
    else (untilMark mark escapes (escapes && c = '\\' && !held) rest).map fun (s, after) => (c :: s, after)

-- The text up to three closing marks. Up to two more may stand directly before these.
def untilThree (mark : Char) (escapes : Bool) : (held : Bool) → List Char → Option (List Char × List Char)
  | _, [] => none
  | held, c :: rest =>
    if !held && c = mark && [mark, mark].isPrefixOf rest then
      let extra := min 2 ((rest.drop 2).takeWhile (· = mark)).length
      some (List.replicate extra mark, rest.drop (2 + extra))
    else (untilThree mark escapes (escapes && c = '\\' && !held) rest).map fun (s, after) => (c :: s, after)

inductive Gap where
  | text
  | lineRest
  | blanks
  deriving DecidableEq, Repr

def charOfHex? (cs : List Char) : Option Char :=
  (Read.hexNumber? cs).bind fun n => if n.isValidChar then some (Char.ofNat n) else none

def escape? (c : Char) : Option Char :=
  if c = '"' ∨ c = '\\' then some c
  else if c = 'b' then some (Char.ofNat 8)
  else if c = 't' then some '\t'
  else if c = 'n' then some '\n'
  else if c = 'f' then some (Char.ofNat 12)
  else if c = 'r' then some '\r'
  else none

-- Resolves escapes. In texts of several lines, a backslash at the end of a line swallows all blanks and line ends after
-- it.
def resolve (lines : Bool) : Gap → List Char → Option (List Char)
  | .lineRest, [] => none
  | _, [] => some []
  | gap, c :: rest =>
    if gap = .lineRest then
      if isSpace c then resolve lines .lineRest rest else if c = '\n' then resolve lines .blanks rest else none
    else if gap = .blanks && (isSpace c || c = '\n') then resolve lines .blanks rest
    else if c = '\\' then
      match rest with
      | 'u' :: a :: b :: c :: d :: rest => do
        let x ← charOfHex? [a, b, c, d]
        (resolve lines .text rest).map (x :: ·)
      | 'U' :: a :: b :: c :: d :: e :: f :: g :: h :: rest => do
        let x ← charOfHex? [a, b, c, d, e, f, g, h]
        (resolve lines .text rest).map (x :: ·)
      | '\n' :: rest => if lines then resolve lines .blanks rest else none
      | e :: rest =>
        if lines && isSpace e then resolve lines .lineRest rest
        else do
          let x ← escape? e
          (resolve lines .text rest).map (x :: ·)
      | [] => none
    else if isPrintable c || (lines && c = '\n') then (resolve lines .text rest).map (c :: ·)
    else none

def verbatim (lines : Bool) (cs : List Char) : Option (List Char) :=
  if cs.all fun c => isPrintable c || (lines && c = '\n') then some cs else none

def skipFirstLineEnd : List Char → List Char
  | '\n' :: rest => rest
  | cs => cs

def finished (content : Option (List Char)) (after : List Char) : Option (String × List Char) :=
  content.map fun s => (String.ofList s, after)

def lineText? (cs : List Char) : Option (String × List Char) :=
  match cs with
  | [] => none
  | c :: rest =>
    if c = quote then do
      let (s, after) ← untilMark quote true false rest
      finished (resolve false .text s) after
    else if c = apostrophe then do
      let (s, after) ← untilMark apostrophe false false rest
      finished (verbatim false s) after
    else none

def text? (cs : List Char) : Option (String × List Char) :=
  if (List.replicate 3 quote).isPrefixOf cs then do
    let (s, after) ← untilThree quote true false (skipFirstLineEnd (cs.drop 3))
    finished (resolve true .text s) after
  else if (List.replicate 3 apostrophe).isPrefixOf cs then do
    let (s, after) ← untilThree apostrophe false false (skipFirstLineEnd (cs.drop 3))
    finished (verbatim true s) after
  else lineText? cs

end Toml
end TidyRows
