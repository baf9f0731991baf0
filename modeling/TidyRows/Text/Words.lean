import TidyRows.Unicode.Letter
namespace TidyRows.Text
open Unicode (isBlank)

def dropEndWhile (p : Char → Bool) (cs : List Char) : List Char := (cs.reverse.dropWhile p).reverse

def trimEnd (cs : List Char) : List Char := dropEndWhile isBlank cs
def trim (cs : List Char) : List Char := trimEnd (cs.dropWhile isBlank)

def allBlank (cs : List Char) : Bool := cs.all isBlank

def wordsBy (separates : Char → Bool) : List Char → List (List Char)
  | [] => []
  | c :: rest =>
    if separates c then wordsBy separates rest
    else match rest, wordsBy separates rest with
      | d :: _, w :: ws => if separates d then [c] :: w :: ws else (c :: w) :: ws
      | _, ws => [c] :: ws

def words (cs : List Char) : List (List Char) := wordsBy isBlank cs

def joinWith (separator : List Char) : List (List Char) → List Char
  | [] => []
  | [w] => w
  | w :: ws => w ++ separator ++ joinWith separator ws

def splitAt (separator : Char) : List Char → List (List Char)
  | [] => [[]]
  | c :: rest =>
    match splitAt separator rest with
    | [] => [[c]]
    | piece :: pieces => if c = separator then [] :: piece :: pieces else (c :: piece) :: pieces

def startsWith (cs part : List Char) : Bool := part.isPrefixOf cs
def endsWith (cs part : List Char) : Bool := part.isSuffixOf cs

def holdsText (part : List Char) : List Char → Bool
  | [] => part.isEmpty
  | c :: rest => startsWith (c :: rest) part || holdsText part rest

-- `skip` characters of an occurrence already replaced are still to be passed.
def replaceFrom (part other : List Char) (skip : Nat) : List Char → List Char
  | [] => []
  | c :: rest =>
    match skip with
    | s + 1 => replaceFrom part other s rest
    | 0 =>
      if startsWith (c :: rest) part then other ++ replaceFrom part other (part.length - 1) rest
      else c :: replaceFrom part other 0 rest

def replaceAll (part other : List Char) (cs : List Char) : List Char := replaceFrom part other 0 cs

def splitLast (mark : Char) (cs : List Char) : Option (List Char × List Char) :=
  let after := (cs.reverse.takeWhile (· != mark)).reverse
  if after.length < cs.length then some (cs.take (cs.length - after.length - 1), after) else none

def splitFirst (mark : Char) (cs : List Char) : Option (List Char × List Char) :=
  match cs.dropWhile (· != mark) with
  | _ :: after => some (cs.takeWhile (· != mark), after)
  | [] => none

end TidyRows.Text
