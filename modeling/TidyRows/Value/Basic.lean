import TidyRows.Number.Double
import TidyRows.Value.Keyed
namespace TidyRows

structure Whole where
  val : Int
  lower : -0x8000000000000000 ≤ val
  upper : val < 0x10000000000000000
  deriving DecidableEq

namespace Whole

instance : Repr Whole := ⟨fun w n => reprPrec w.val n⟩

def ofInt? (n : Int) : Option Whole :=
  if h : -0x8000000000000000 ≤ n ∧ n < 0x10000000000000000 then some ⟨n, h.1, h.2⟩ else none

end Whole

inductive Value where
  | null
  | bool (b : Bool)
  | whole (n : Whole)
  | real (x : Finite)
  | text (s : String)
  | list (vs : List Value)
  | record (fields : List (String × Value))
  deriving Repr, Inhabited

abbrev Row := Keyed Value

namespace Value

mutual
-- Equal as values: the order of a record's fields does not count.
def same : Value → Value → Bool
  | .null, .null => true
  | .bool a, .bool b => a == b
  | .whole a, .whole b => a == b
  | .real a, .real b => a.signedUnits == b.signedUnits
  | .text a, .text b => a == b
  | .list a, .list b => sameList a b
  | .record a, .record b => a.length == b.length && sameFields a b
  | _, _ => false

def sameList : List Value → List Value → Bool
  | [], [] => true
  | a :: as, b :: bs => same a b && sameList as bs
  | _, _ => false

def sameFields : List (String × Value) → List (String × Value) → Bool
  | [], _ => true
  | (name, v) :: rest, fields =>
    (match fields.lookup name with
      | some w => same v w
      | none => false) && sameFields rest fields
end

-- A whole number, or the nearest binary one when it is out of the range of whole numbers.
def ofInt (n : Int) : Value :=
  match Whole.ofInt? n with
  | some w => .whole w
  | none => match Double.ofInt n with
    | .finite x => .real x
    | _ => .null

def ofNat (n : Nat) : Value := ofInt n

def ofDouble : Double → Value
  | .finite x => .real x
  | _ => .null

def ofStrings (ss : List String) : Value := .list (ss.map .text)

def present : List (String × Option Value) → List (String × Value)
  | [] => []
  | (_, none) :: rest => present rest
  | (name, some v) :: rest => (name, v) :: present rest

def ofPresent (fields : List (String × Option Value)) : Value := .record (present fields)

def ofOption (f : α → Value) : Option α → Value
  | some a => f a
  | none => .null

def wholeLimit : Double := Double.ofNat 9000000000000000

-- A computed number: a whole one when it has no fraction and is small enough, no value when it is not finite.
def ofComputed (d : Double) : Value :=
  match d with
  | .finite x => if x.isWhole && Double.lt (.finite x.abs) wholeLimit then ofInt x.truncated else .real x
  | _ => .null

def number? : Value → Option Double
  | .whole n => some (Double.ofInt n.val)
  | .real x => some (.finite x)
  | _ => none

def text? : Value → Option String
  | .text s => some s
  | _ => none

end Value

def Keyed.toValue (row : Row) : Value := .record row.entries

end TidyRows
