import TidyRows.Number.Literal
import TidyRows.Unicode.Casing
import TidyRows.Text.Words
namespace TidyRows.Transform

def isSlugChar (c : Char) : Bool := ('a' ≤ c && c ≤ 'z') || isDigit c

def isReferenceChar (c : Char) : Bool :=
  isDigit c || ('a' ≤ c && c ≤ 'z') || ('A' ≤ c && c ≤ 'Z') || c = '_'

def isWholeReference (name : List Char) : Bool :=
  let digits := match name with
    | '+' :: rest => rest
    | rest => rest
  natOfText? digits == some 0

inductive SeparatorPart where
  | plain (c : Char)
  | replaced
  deriving DecidableEq, Repr

def reference? : List Char → Option (List Char × Nat)
  | '{' :: rest =>
    let name := rest.takeWhile (· != '}')
    if name.length < rest.length then some (name, name.length + 2) else none
  | rest =>
    let name := rest.takeWhile isReferenceChar
    if name.isEmpty then none else some (name, name.length)

-- `skip` characters of a reference already read are still to be passed.
def separatorFrom (skip : Nat) : List Char → List SeparatorPart
  | [] => []
  | c :: rest =>
    match skip with
    | s + 1 => separatorFrom s rest
    | 0 =>
      if c != '$' then .plain c :: separatorFrom 0 rest
      else if rest.head? = some '$' then .plain '$' :: separatorFrom 1 rest
      else match reference? rest with
        | some (name, taken) =>
          (if isWholeReference name then [.replaced] else []) ++ separatorFrom taken rest
        | none => .plain '$' :: separatorFrom 0 rest

def separatorParts (separator : List Char) : List SeparatorPart := separatorFrom 0 separator

def fillSeparator (parts : List SeparatorPart) (gap : List Char) : List Char :=
  parts.flatMap fun
    | .plain c => [c]
    | .replaced => gap

-- `gap` holds the characters of the current run to be replaced, last first.
def slugFrom (parts : List SeparatorPart) (gap : List Char) : List Char → List Char
  | [] => if gap.isEmpty then [] else fillSeparator parts gap.reverse
  | c :: rest =>
    if isSlugChar c then
      (if gap.isEmpty then [] else fillSeparator parts gap.reverse) ++ c :: slugFrom parts [] rest
    else slugFrom parts (c :: gap) rest

def collapseDoubled (separator : List Char) : Nat → List Char → List Char
  | 0, cs => cs
  | fuel + 1, cs =>
    let doubled := separator ++ separator
    if Text.holdsText doubled cs then
      collapseDoubled separator fuel (Text.replaceAll doubled separator cs)
    else cs

def stripFront (separator : List Char) : Nat → List Char → List Char
  | 0, cs => cs
  | fuel + 1, cs =>
    if Text.startsWith cs separator then stripFront separator fuel (cs.drop separator.length) else cs

def stripBack (separator : List Char) : Nat → List Char → List Char
  | 0, cs => cs
  | fuel + 1, cs =>
    if Text.endsWith cs separator then stripBack separator fuel (cs.take (cs.length - separator.length))
    else cs

-- No separator twice in a row and none at either end. Each step shortens the text, so its length is enough of them.
def tidySeparators (separator cs : List Char) : List Char :=
  if separator.isEmpty then cs
  else
    let collapsed := collapseDoubled separator cs.length cs
    stripBack separator collapsed.length (stripFront separator collapsed.length collapsed)

def slugify (separator cs : List Char) : List Char :=
  tidySeparators separator (slugFrom (separatorParts separator) [] (Unicode.lower cs))

end TidyRows.Transform
