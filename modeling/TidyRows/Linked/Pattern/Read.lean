import TidyRows.Linked.Pattern.Bracket
namespace TidyRows.Pattern

-- A part of a branch, and how deep it nests. A change of flags is a part without a pattern.
structure Part where
  pattern : Option Pattern
  depth : Nat

def branchOf (parts : List Part) : Part :=
  match parts with
  | [] => ⟨some .empty, 0⟩
  | [p] => ⟨some (p.pattern.getD .empty), p.depth⟩
  | p :: rest =>
    ⟨some (rest.foldl (fun after p => match p.pattern with
        | some pattern => .followed pattern after
        | none => after) (p.pattern.getD .empty)),
      (parts.map (·.depth)).foldl max 0 + 1⟩

def choiceOf (branches : List Part) : Part :=
  match branches with
  | [] => ⟨some .empty, 0⟩
  | [b] => b
  | b :: rest =>
    ⟨some (rest.foldl (fun after b => .either (b.pattern.getD .empty) after) (b.pattern.getD .empty)),
      (branches.map (·.depth)).foldl max 0 + 1⟩

-- A group that is not yet closed: its finished branches, the parts of the current one, and the flags that hold after
-- it.
structure OpenGroup where
  branches : List Part
  parts : List Part
  after : Flags

structure Reading where
  flags : Flags
  names : List (List Char)
  group : OpenGroup
  outer : List OpenGroup

namespace Reading

def initial : Reading := ⟨.initial, [], ⟨[], [], .initial⟩, []⟩

def addPart (r : Reading) (p : Part) : Reading := { r with group := { r.group with parts := p :: r.group.parts } }

def addPattern (r : Reading) (p : Pattern) : Reading := r.addPart ⟨some p, 0⟩

def nextBranch (r : Reading) : Reading :=
  { r with group := { r.group with branches := branchOf r.group.parts :: r.group.branches, parts := [] } }

def enter (r : Reading) (inside : Flags) : Reading :=
  { r with flags := inside, group := ⟨[], [], r.flags⟩, outer := r.group :: r.outer }

def whole (g : OpenGroup) : Part := choiceOf (branchOf g.parts :: g.branches)

def leave? (r : Reading) : Option Reading :=
  match r.outer with
  | [] => none
  | parent :: outer =>
    let p := whole r.group
    some (addPart { r with flags := r.group.after, group := parent, outer } ⟨p.pattern, p.depth + 1⟩)

def repeatLast? (r : Reading) (least : Nat) (most : Option Nat) : Option Reading :=
  match r.group.parts with
  | ⟨some body, depth⟩ :: parts =>
    some { r with group := { r.group with parts := ⟨some (body.repeated least most), depth + 1⟩ :: parts } }
  | _ => none

end Reading

-- Sets the flag that a letter names. Greediness does not decide whether a text holds a match.
def Flags.put? (f : Flags) (letter : Char) (on : Bool) : Option Flags :=
  match letter with
  | 'i' => some { f with fold := on }
  | 'm' => some { f with multiLine := on }
  | 's' => some { f with dotAll := on }
  | 'u' => some { f with unicode := on }
  | 'R' => some { f with returns := on }
  | 'x' => some { f with verbose := on }
  | 'U' => some f
  | _ => none

-- Letters of flags up to a colon or a closing bracket, with that mark and whether there were any. Letters after a
-- hyphen are turned off; none may come twice, and the hyphen may not be last.
def readFlags (f : Flags) (seen : List Char) : List Char → Option (Flags × Bool × Char × List Char)
  | [] => none
  | c :: rest =>
    if c == ':' || c == ')' then (if seen.head? == some '-' then none else some (f, !seen.isEmpty, c, rest))
    else if seen.contains c then none
    else if c == '-' then readFlags f (c :: seen) rest
    else do readFlags (← f.put? c !(seen.contains '-')) (c :: seen) rest

def nameStart (c : Char) : Bool := c == '_' || Unicode.isAlphabetic c
def nameRest (c : Char) : Bool :=
  c == '_' || c == '.' || c == '[' || c == ']' || Unicode.isAlphabetic c || Unicode.isNumber c

def isGroupName : List Char → Bool
  | [] => false
  | c :: rest => nameStart c && rest.all nameRest

def enterNamed (r : Reading) (cs : List Char) : Option (Reading × List Char) :=
  match Text.splitFirst '>' cs with
  | some (name, rest) =>
    if isGroupName name && !r.names.contains name then
      some ({ r with names := name :: r.names }.enter r.flags, rest)
    else none
  | none => none

def openGroup (r : Reading) (cs : List Char) : Option (Reading × List Char) :=
  match r.flags.layout cs with
  | '?' :: '=' :: _ => none
  | '?' :: '!' :: _ => none
  | '?' :: '<' :: '=' :: _ => none
  | '?' :: '<' :: '!' :: _ => none
  | '?' :: 'P' :: '<' :: rest => enterNamed r rest
  | '?' :: '<' :: rest => enterNamed r rest
  | '?' :: rest => do
    let (flags, any, mark, rest) ← readFlags r.flags [] rest
    if mark == ':' then return (r.enter flags, rest)
    if !any then none
    return ({ r with flags }.addPart ⟨none, 0⟩, rest)
  | rest => some (r.enter r.flags, rest)

def maxCount : Nat := 0x100000000

def readCount (cs : List Char) : Option (Nat × List Char) :=
  let (digits, rest) := spanDigits (cs.dropWhile Unicode.isBlank)
  match natOfText? digits with
  | some n => if n < maxCount then some (n, rest.dropWhile Unicode.isBlank) else none
  | none => none

def readBounds (cs : List Char) : Option (Nat × Option Nat) := do
  let (least, rest) ← readCount cs
  match rest with
  | [] => return (least, some least)
  | [','] => return (least, none)
  | ',' :: rest =>
    let (most, rest) ← readCount rest
    if rest.isEmpty && least ≤ most then return (least, some most)
    none
  | _ => none

-- A question mark after a repetition changes which match is found, not whether there is one.
def skipLazy : List Char → List Char
  | '?' :: rest => rest
  | rest => rest

def repeatCounted (r : Reading) (cs : List Char) : Option (Reading × List Char) := do
  let (inside, rest) ← r.flags.braced cs
  let (least, most) ← readBounds inside
  return (← r.repeatLast? least most, skipLazy (r.flags.layout rest))

def anyChar? (f : Flags) : Option CharSet :=
  if !f.unicode then none
  else if f.dotAll then some .anything
  else if f.returns then some ((CharSet.single '\n').union (.single '\r')).complement
  else some (CharSet.single '\n').complement

def startMark (f : Flags) : Look :=
  if f.multiLine then (if f.returns then .returnLineStart else .lineStart) else .textStart

def endMark (f : Flags) : Look :=
  if f.multiLine then (if f.returns then .returnLineEnd else .lineEnd) else .textEnd

def itemPattern? (f : Flags) : Item → Option Pattern
  | .char c byte => if byte && !f.unicode && 128 ≤ c.toNat then none else some (.one (f.charSet c))
  | .set s => some (.one s)
  | .look condition => some (.look condition)

def step (r : Reading) (c : Char) (rest : List Char) : Option (Reading × List Char) :=
  match c with
  | '(' => openGroup r rest
  | ')' => do return (← r.leave?, rest)
  | '|' => some (r.nextBranch, rest)
  | '[' => do
    let (set, rest) ← bracket r.flags rest
    return (r.addPart ⟨some (.one set), 1⟩, rest)
  | '?' => do return (← r.repeatLast? 0 (some 1), skipLazy rest)
  | '*' => do return (← r.repeatLast? 0 none, skipLazy rest)
  | '+' => do return (← r.repeatLast? 1 none, skipLazy rest)
  | '.' => do return (r.addPattern (.one (← anyChar? r.flags)), rest)
  | '^' => some (r.addPattern (.look (startMark r.flags)), rest)
  | '$' => some (r.addPattern (.look (endMark r.flags)), rest)
  | '\\' => do
    let (item, rest) ← escape r.flags rest
    return (r.addPattern (← itemPattern? r.flags item), rest)
  | c =>
    if c == Char.ofNat 0x7B then repeatCounted r rest
    else some (r.addPattern (.one (r.flags.charSet c)), rest)

def readFrom : Nat → Reading → List Char → Option Part
  | 0, _, _ => none
  | fuel + 1, r, cs =>
    match r.flags.layout cs with
    | [] => if r.outer.isEmpty then some (Reading.whole r.group) else none
    | c :: rest => do
      let (r, rest) ← step r c rest
      readFrom fuel r rest

def maxDepth : Nat := 250

def maxWeight : Nat := 10 * 0x100000

def ofText? (s : String) : Option Pattern := do
  let cs := s.toList
  let whole ← readFrom (cs.length + 1) .initial cs
  let p := whole.pattern.getD .empty
  if whole.depth ≤ maxDepth && p.weight ≤ maxWeight then some p else none

end TidyRows.Pattern
