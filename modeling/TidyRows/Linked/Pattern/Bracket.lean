import TidyRows.Number.Literal
import TidyRows.Linked.Pattern.Named
namespace TidyRows.Pattern

structure Flags where
  fold : Bool
  multiLine : Bool
  dotAll : Bool
  unicode : Bool
  returns : Bool
  verbose : Bool
  deriving DecidableEq, Repr

def Flags.initial : Flags := ⟨false, false, false, true, false, false⟩

def Flags.wordKind (f : Flags) : WordKind := if f.unicode then .unicode else .ascii

-- What is left after blanks and comments. The first argument tells whether a comment is open.
def dropLayout : Bool → List Char → List Char
  | _, [] => []
  | true, c :: rest => dropLayout (c != '\n') rest
  | false, c :: rest =>
    if Unicode.isBlank c then dropLayout false rest
    else if c == '#' then dropLayout true rest
    else c :: rest

def Flags.layout (f : Flags) (cs : List Char) : List Char := if f.verbose then dropLayout false cs else cs

def untilBrace (verbose : Bool) : Bool → List Char → Option (List Char × List Char)
  | _, [] => none
  | true, c :: rest => untilBrace verbose (c != '\n') rest
  | false, c :: rest =>
    if c == Char.ofNat 0x7D then some ([], rest)
    else if verbose && Unicode.isBlank c then untilBrace verbose false rest
    else if verbose && c == '#' then untilBrace verbose true rest
    else (untilBrace verbose false rest).map fun (name, rest) => (c :: name, rest)

def Flags.braced (f : Flags) (cs : List Char) : Option (List Char × List Char) := untilBrace f.verbose false cs

inductive Item where
  | char (c : Char) (byte : Bool)
  | set (s : CharSet)
  | look (condition : Look)

-- A set is complemented. Where characters are bytes that would hold parts of characters.
def Flags.complement? (f : Flags) (s : CharSet) : Option CharSet :=
  if f.unicode then some s.complement else none

def Flags.foldSet (f : Flags) (s : CharSet) : CharSet :=
  if f.fold then (if f.unicode then s.folded else s.asciiFolded) else s

def Flags.charSet (f : Flags) (c : Char) : CharSet :=
  if !f.fold || (!f.unicode && 128 ≤ c.toNat) then .single c else f.foldSet (.single c)

def charOfCode? (n : Nat) : Option Char := if h : n.isValidChar then some (Char.ofNatAux n h) else none

def hexDigit? (c : Char) : Option Nat :=
  if isDigit c then some (c.toNat - 48)
  else if 'a' ≤ c && c ≤ 'f' then some (c.toNat - 87)
  else if 'A' ≤ c && c ≤ 'F' then some (c.toNat - 55)
  else none

def hexNumber? (cs : List Char) : Option Nat :=
  cs.foldlM (fun n c => (hexDigit? c).map (16 * n + ·)) 0

def fixedHex (f : Flags) : Nat → List Char → Option (List Char × List Char)
  | 0, cs => some ([], cs)
  | n + 1, cs => match f.layout cs with
    | c :: rest => (fixedHex f n rest).map fun (ds, rest) => (c :: ds, rest)
    | [] => none

def hexItem (f : Flags) (digits : Nat) (cs : List Char) : Option (Item × List Char) := do
  match f.layout cs with
  | c :: rest =>
    if c == Char.ofNat 0x7B then
      let (ds, rest) ← f.braced rest
      if ds.isEmpty then none
      return (.char (← charOfCode? (← hexNumber? ds)) false, rest)
    let (ds, rest) ← fixedHex f digits (c :: rest)
    return (.char (← charOfCode? (← hexNumber? ds)) (digits == 2), rest)
  | [] => none

def propertyItem (f : Flags) (negated : Bool) (cs : List Char) : Option (Item × List Char) := do
  if !f.unicode then none
  let (set, rest) ← match f.layout cs with
    | c :: rest =>
      if c == Char.ofNat 0x7B then do
        let (name, rest) ← f.braced rest
        some (← CharSet.query? name, rest)
      else do some (← CharSet.named? [c], rest)
    | [] => none
  let set := f.foldSet set
  return (.set (if negated then set.complement else set), rest)

-- A name in braces after the mark of a word boundary. Braces that hold a number are left for the reader of repetitions.
def boundaryItem (f : Flags) (cs : List Char) : Option (Item × List Char) :=
  let plain : Option (Item × List Char) := some (.look (.boundary f.wordKind), cs)
  match cs with
  | c :: rest =>
    if c == Char.ofNat 0x7B then
      match f.layout rest with
      | d :: _ =>
        if d.isAlpha || d == '-' then do
          let (name, rest) ← f.braced rest
          match String.ofList name with
          | "start" => some (.look (.wordStart f.wordKind), rest)
          | "end" => some (.look (.wordEnd f.wordKind), rest)
          | "start-half" => some (.look (.noWordBefore f.wordKind), rest)
          | "end-half" => some (.look (.noWordAfter f.wordKind), rest)
          | _ => none
        else plain
      | [] => none
    else plain
  | [] => plain

-- Characters that stand for themselves after a backslash: all of ASCII but letters, digits and the marks of word starts
-- and ends.
def escapable (c : Char) : Bool := c.toNat < 128 && !c.isAlphanum && c != '<' && c != '>'

def escape (f : Flags) : List Char → Option (Item × List Char)
  | [] => none
  | c :: rest =>
    if escapable c then some (.char c false, rest)
    else match c with
      | 'x' => hexItem f 2 rest
      | 'u' => hexItem f 4 rest
      | 'U' => hexItem f 8 rest
      | 'p' => propertyItem f false rest
      | 'P' => propertyItem f true rest
      | 'a' => some (.char (Char.ofNat 7) false, rest)
      | 'f' => some (.char (Char.ofNat 12) false, rest)
      | 't' => some (.char '\t' false, rest)
      | 'n' => some (.char '\n' false, rest)
      | 'r' => some (.char '\r' false, rest)
      | 'v' => some (.char (Char.ofNat 11) false, rest)
      | 'A' => some (.look .textStart, rest)
      | 'z' => some (.look .textEnd, rest)
      | 'b' => boundaryItem f rest
      | 'B' => some (.look (.noBoundary f.wordKind), rest)
      | '<' => some (.look (.wordStart f.wordKind), rest)
      | '>' => some (.look (.wordEnd f.wordKind), rest)
      | c => do
        let set ← CharSet.lettered? f.unicode c.toLower
        if c.isLower then some (.set set, rest) else some (.set (← f.complement? set), rest)

inductive SetOperation where
  | inter
  | without
  | differing
  deriving DecidableEq, Repr

def SetOperation.apply : SetOperation → CharSet → CharSet → CharSet
  | inter => CharSet.inter
  | without => CharSet.without
  | differing => CharSet.differing

inductive BracketPlace where
  | first
  | hyphens
  | later
  deriving DecidableEq, Repr

structure OpenBracket where
  negated : Bool
  left : Option (SetOperation × CharSet)
  items : CharSet
  place : BracketPlace

namespace OpenBracket

def add (b : OpenBracket) (s : CharSet) : OpenBracket := { b with items := b.items.union s, place := .later }

def value (f : Flags) (b : OpenBracket) : CharSet :=
  match b.left with
  | some (operation, left) => operation.apply (f.foldSet left) (f.foldSet b.items)
  | none => b.items

def operate (f : Flags) (b : OpenBracket) (operation : SetOperation) : OpenBracket :=
  { b with left := some (operation, b.value f), items := .nothing, place := .later }

def close? (f : Flags) (b : OpenBracket) : Option CharSet :=
  let whole := f.foldSet (b.value f)
  if b.negated then f.complement? whole else some whole

def start (f : Flags) (cs : List Char) : OpenBracket × List Char :=
  match f.layout cs with
  | '^' :: rest => (⟨true, none, .nothing, .first⟩, rest)
  | rest => (⟨false, none, .nothing, .first⟩, rest)

end OpenBracket

def asciiClass (f : Flags) (cs : List Char) : Option (Option CharSet × List Char) := do
  match cs with
  | ':' :: rest =>
    let (negated, rest) := match rest with
      | '^' :: rest => (true, rest)
      | rest => (false, rest)
    match rest.dropWhile (· != ':') with
    | ':' :: ']' :: after =>
      let set := f.foldSet (← CharSet.asciiNamed? (rest.takeWhile (· != ':')))
      return (if negated then f.complement? set else some set, after)
    | _ => none
  | _ => none

def bracketItem (f : Flags) : List Char → Option (Item × List Char)
  | '\\' :: rest => escape f rest
  | c :: rest => some (.char c false, rest)
  | [] => none

def bracketChar? (f : Flags) : Item → Option Char
  | .char c _ => if f.unicode || c.toNat < 128 then some c else none
  | _ => none

def bracketSet? (f : Flags) : Item → Option CharSet
  | .set s => some s
  | item => (bracketChar? f item).map .single

def bracketRange (f : Flags) (cs : List Char) : Option (CharSet × List Char) := do
  let (first, rest) ← bracketItem f cs
  let alone : Option (CharSet × List Char) := do some (← bracketSet? f first, rest)
  match f.layout rest with
  | '-' :: more => match f.layout more with
    | ']' :: _ => alone
    | '-' :: _ => alone
    | more => do
      let (last, rest) ← bracketItem f more
      let a ← bracketChar? f first
      let b ← bracketChar? f last
      if a ≤ b then some (.range a b, rest) else none
  | _ => alone

-- Brackets may stand in brackets; `outer` holds those around the current one, inmost first. Each round reads at least
-- one character.
def bracketFrom (f : Flags) : Nat → List OpenBracket → OpenBracket → List Char → Option (CharSet × List Char)
  | 0, _, _, _ => none
  | fuel + 1, outer, b, cs =>
    match f.layout cs with
    | [] => none
    | c :: rest =>
      if c == '-' && b.place != .later then
        bracketFrom f fuel outer { b.add (.single '-') with place := .hyphens } rest
      else if c == ']' && b.place == .first then bracketFrom f fuel outer (b.add (.single ']')) rest
      else match c, rest with
        | '[', rest =>
          match asciiClass f rest with
          | some (some s, rest) => bracketFrom f fuel outer (b.add s) rest
          | some (none, _) => none
          | none =>
            let (inner, rest) := OpenBracket.start f rest
            bracketFrom f fuel (b :: outer) inner rest
        | ']', rest => do
          let s ← b.close? f
          match outer with
          | [] => some (s, rest)
          | parent :: outer => bracketFrom f fuel outer (parent.add s) rest
        | '&', '&' :: rest => bracketFrom f fuel outer (b.operate f .inter) rest
        | '-', '-' :: rest => bracketFrom f fuel outer (b.operate f .without) rest
        | '~', '~' :: rest => bracketFrom f fuel outer (b.operate f .differing) rest
        | c, rest => do
          let (s, rest) ← bracketRange f (c :: rest)
          bracketFrom f fuel outer (b.add s) rest

def bracket (f : Flags) (cs : List Char) : Option (CharSet × List Char) :=
  let (b, rest) := OpenBracket.start f cs
  bracketFrom f (rest.length + 1) [] b rest

end TidyRows.Pattern
