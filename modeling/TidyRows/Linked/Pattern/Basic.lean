import TidyRows.Unicode.Casing
import TidyRows.Unicode.Letter
namespace TidyRows

-- A set of characters, and about how many separate ranges it takes.
structure CharSet where
  holds : Char → Bool
  spans : Nat

namespace CharSet

def nothing : CharSet := ⟨fun _ => false, 0⟩
def anything : CharSet := ⟨fun _ => true, 1⟩
def single (c : Char) : CharSet := ⟨fun d => d == c, 1⟩
def range (first last : Char) : CharSet := ⟨fun c => first ≤ c && c ≤ last, 1⟩
def ofRuns (runs : Unicode.Runs) : CharSet := ⟨runs.contains, runs.length / 2⟩

def complement (s : CharSet) : CharSet := ⟨fun c => !s.holds c, s.spans + 1⟩
def union (s t : CharSet) : CharSet := ⟨fun c => s.holds c || t.holds c, s.spans + t.spans⟩
def inter (s t : CharSet) : CharSet := ⟨fun c => s.holds c && t.holds c, s.spans + t.spans⟩
def without (s t : CharSet) : CharSet := ⟨fun c => s.holds c && !t.holds c, s.spans + t.spans⟩
def differing (s t : CharSet) : CharSet := ⟨fun c => s.holds c != t.holds c, s.spans + t.spans⟩

def folded (s : CharSet) : CharSet :=
  ⟨fun c => s.holds c || (Unicode.foldClass c).any s.holds, 2 * s.spans⟩

def asciiFolded (s : CharSet) : CharSet :=
  ⟨fun c => s.holds c || s.holds c.toLower || s.holds c.toUpper, 2 * s.spans⟩

end CharSet

inductive WordKind where
  | ascii
  | unicode
  deriving DecidableEq, Repr

def WordKind.holds : WordKind → Char → Bool
  | ascii, c => c.isAlphanum || c == '_'
  | unicode, c => Unicode.isWordChar c

inductive Look where
  | textStart
  | textEnd
  | lineStart
  | lineEnd
  | returnLineStart
  | returnLineEnd
  | boundary (kind : WordKind)
  | noBoundary (kind : WordKind)
  | wordStart (kind : WordKind)
  | wordEnd (kind : WordKind)
  | noWordBefore (kind : WordKind)
  | noWordAfter (kind : WordKind)
  deriving DecidableEq, Repr

structure Spot where
  before : Option Char
  after : Option Char

def spotsAfter (before : Option Char) : List Char → List Spot
  | [] => [⟨before, none⟩]
  | c :: rest => ⟨before, some c⟩ :: spotsAfter (some c) rest

def spots (text : List Char) : List Spot := spotsAfter none text

def Look.holds (s : Spot) : Look → Bool
  | textStart => s.before.isNone
  | textEnd => s.after.isNone
  | lineStart => s.before.isNone || s.before == some '\n'
  | lineEnd => s.after.isNone || s.after == some '\n'
  | returnLineStart =>
    s.before.isNone || s.before == some '\n' || s.before == some '\r' && s.after != some '\n'
  | returnLineEnd =>
    s.after.isNone || s.after == some '\r' || s.after == some '\n' && s.before != some '\r'
  | boundary kind => s.before.any kind.holds != s.after.any kind.holds
  | noBoundary kind => s.before.any kind.holds == s.after.any kind.holds
  | wordStart kind => !s.before.any kind.holds && s.after.any kind.holds
  | wordEnd kind => s.before.any kind.holds && !s.after.any kind.holds
  | noWordBefore kind => !s.before.any kind.holds
  | noWordAfter kind => !s.after.any kind.holds

inductive Pattern where
  | empty
  | one (set : CharSet)
  | look (condition : Look)
  | followed (first second : Pattern)
  | either (left right : Pattern)
  | times (least : Nat) (most : Option Nat) (body : Pattern)

namespace Pattern

-- For every place of a text, whether it has been reached.
abbrev Reached := List Bool

def Reached.merge (a b : Reached) : Reached := a.zipWith (· || ·) b

def iterate (f : α → α) : Nat → α → α
  | 0, a => a
  | n + 1, a => iterate f n (f a)

-- The places that a pattern leads to. As many rounds as there are places reach all that any number of rounds does.
def reach (places : List Spot) : Pattern → Reached → Reached
  | empty, start => start
  | one set, start => false :: (start.zipWith (fun b s => b && s.after.any set.holds) places).dropLast
  | look condition, start => start.zipWith (fun b s => b && condition.holds s) places
  | followed first second, start => reach places second (reach places first start)
  | either left right, start => (reach places left start).merge (reach places right start)
  | times least most body, start =>
    let rounds := min ((most.map (· - least)).getD places.length) places.length
    iterate (fun r => r.merge (reach places body r)) rounds (iterate (reach places body) least start)

def occursIn (p : Pattern) (text : List Char) : Bool :=
  let places := spots text
  (reach places p (places.map fun _ => true)).any id

def weightless : Pattern → Bool
  | empty => true
  | one _ => false
  | look _ => true
  | followed first second => first.weightless && second.weightless
  | either left right => left.weightless && right.weightless
  | times _ most body => most == some 0 || body.weightless

-- Repeats a pattern. One round of a weightless one does as much as many.
def repeated (least : Nat) (most : Option Nat) (p : Pattern) : Pattern :=
  if p.weightless then times (min least 1) (some (min (most.getD 1) 1)) p else times least most p

def weight : Pattern → Nat
  | empty => 0
  | one set => 32 + 64 * (set.spans - 1)
  | look _ => 32
  | followed first second => first.weight + second.weight
  | either left right => left.weight + right.weight + 32
  | times least most body => (body.weight + 32) * max (most.getD least) 1

end Pattern
end TidyRows
