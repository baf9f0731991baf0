import TidyRows.Unicode.Casing
import TidyRows.Unicode.Letter
import TidyRows.Text.Words
namespace TidyRows.Transform

def afterWord? (word : List Char) (cs : List Char) : Option (List Char) :=
  if (cs.take word.length).map Unicode.fold == word && word.length ≤ cs.length then some (cs.drop word.length)
  else none

def afterBlockName? (cs : List Char) : Option (List Char) :=
  (afterWord? "script".toList cs).or (afterWord? "style".toList cs)

def afterTagEnd? (cs : List Char) : Option (List Char) :=
  match cs.dropWhile (· != '>') with
  | _ :: rest => some rest
  | [] => none

def afterBlockClose? : List Char → Option (List Char)
  | '<' :: '/' :: cs => do
    let rest ← afterBlockName? cs
    match rest.dropWhile Unicode.isBlank with
    | '>' :: rest => some rest
    | _ => none
  | _ => none

-- The rest after the nearest closing tag of a block. Any block's closing tag ends any block.
def findBlockClose? : List Char → Option (List Char)
  | [] => none
  | c :: cs => (afterBlockClose? (c :: cs)).or (findBlockClose? cs)

def afterBlock? : List Char → Option (List Char)
  | '<' :: cs => do
    let rest ← afterBlockName? cs
    if (rest.head?.map Unicode.isWordChar).getD false then none
    else findBlockClose? (← afterTagEnd? rest)
  | _ => none

def afterTag? : List Char → Option (List Char)
  | '<' :: cs => afterTagEnd? cs
  | _ => none

-- `skip` characters of a removed piece are still to be passed.
def removeFrom (after? : List Char → Option (List Char)) (skip : Nat) : List Char → List Char
  | [] => []
  | c :: cs =>
    match skip with
    | s + 1 => removeFrom after? s cs
    | 0 => match after? (c :: cs) with
      | some rest => removeFrom after? (cs.length - rest.length) cs
      | none => c :: removeFrom after? 0 cs

def removeBlocks (cs : List Char) : List Char := removeFrom afterBlock? 0 cs
def removeTags (cs : List Char) : List Char := removeFrom afterTag? 0 cs

def apostrophe : Char := Char.ofNat 39

-- Entities in the order in which they are decoded. The ampersand comes last, so what it uncovers stays as it is.
def entities : List (String × Char) := [("&nbsp;", ' '), ("&lt;", '<'), ("&gt;", '>'), ("&quot;", '"'),
  ("&#39;", apostrophe), ("&apos;", apostrophe), ("&amp;", '&')]

def decodeEntities (cs : List Char) : List Char :=
  entities.foldl (fun cs (entity, c) => Text.replaceAll entity.toList [c] cs) cs

def sanitizeMarkup (cs : List Char) : List Char :=
  if cs.contains '<' || cs.contains '&' then Text.trim (decodeEntities (removeTags (removeBlocks cs)))
  else cs

end TidyRows.Transform
