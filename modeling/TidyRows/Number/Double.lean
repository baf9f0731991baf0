namespace TidyRows

inductive Tie where
  | toEven
  | up
  deriving DecidableEq, Repr

def roundDiv (tie : Tie) (n d : Nat) : Nat :=
  let q := n / d
  let twice := 2 * (n % d)
  if twice < d then q
  else if d < twice then q + 1
  else match tie with
    | .toEven => q + q % 2
    | .up => q + 1

-- How many numbers there are from one power of two to the next.
abbrev binade : Nat := 0x10000000000000

abbrev rankCount : Nat := 2047 * binade

structure Finite where
  negative : Bool
  rank : Fin rankCount
  deriving DecidableEq, Repr

inductive Double where
  | nan
  | infinite (negative : Bool)
  | finite (x : Finite)
  deriving DecidableEq, Repr

-- How many smallest units (one unit is `2 ^ -1074`) the number of this rank is worth.
def unitsOfRank (r : Nat) : Nat :=
  let shift := r / binade - 1
  (r - shift * binade) <<< shift

def unitsPerOne : Nat := 1 <<< 1074

-- Below `2 ^ 53` units every whole count is a number; above, a count keeps 53 bits, and a carry
-- into the next power of two still lands on the right rank.
def rankOfRatio (n d : Nat) : Nat :=
  let shift := Nat.log2 (n / d) - 52
  shift * binade + roundDiv .toEven n (d <<< shift)

namespace Finite

def zero : Finite := ⟨false, 0, by decide⟩
def one : Finite := ⟨false, 1023 * binade, by decide⟩

def units (x : Finite) : Nat := unitsOfRank x.rank

def signedUnits (x : Finite) : Int := if x.negative then -(x.units : Int) else x.units

def isZero (x : Finite) : Bool := x.rank.val == 0

def isWhole (x : Finite) : Bool := x.units % unitsPerOne == 0

def truncated (x : Finite) : Int :=
  let whole := x.units / unitsPerOne
  if x.negative then -(whole : Int) else whole

def neg (x : Finite) : Finite := { x with negative := !x.negative }
def abs (x : Finite) : Finite := { x with negative := false }

end Finite

namespace Double

def ofRank (negative : Bool) (r : Nat) : Double :=
  if h : r < rankCount then .finite ⟨negative, r, h⟩ else .infinite negative

def ofUnits (negative : Bool) (n d : Nat) : Double := .ofRank negative (rankOfRatio n d)

def ofSignedUnits (zeroNegative : Bool) (n : Int) : Double :=
  if n = 0 then .ofRank zeroNegative 0 else .ofUnits (n < 0) n.natAbs 1

def ofRatio (negative : Bool) (n d : Nat) : Double := .ofUnits negative (n * unitsPerOne) d

def ofNat (n : Nat) : Double := ofRatio false n 1
def ofInt (n : Int) : Double := ofRatio (n < 0) n.natAbs 1

def zero : Double := .finite .zero
def one : Double := .finite .one

-- The number nearest to `digits · 10 ^ exponent`. A power of ten far out of range, where the answer is zero or
-- infinity, is not computed.
def ofDecimal (negative : Bool) (digits : Nat) (exponent : Int) : Double :=
  if digits = 0 then .ofRank negative 0
  else match exponent with
    | .ofNat e =>
      if 1100 < Nat.log2 digits + 3 * e then .infinite negative
      else ofRatio negative (digits * Nat.pow 10 e) 1
    | .negSucc k =>
      if Nat.log2 digits + 1100 < 3 * (k + 1) then .ofRank negative 0
      else ofRatio negative digits (Nat.pow 10 (k + 1))

def isFinite : Double → Bool
  | .finite _ => true
  | _ => false

def neg : Double → Double
  | .nan => .nan
  | .infinite s => .infinite !s
  | .finite x => .finite x.neg

def add : Double → Double → Double
  | .nan, _ => .nan
  | _, .nan => .nan
  | .infinite s, .infinite t => if s = t then .infinite s else .nan
  | .infinite s, .finite _ => .infinite s
  | .finite _, .infinite t => .infinite t
  | .finite x, .finite y => .ofSignedUnits (x.negative && y.negative) (x.signedUnits + y.signedUnits)

def sub (a b : Double) : Double := add a b.neg

def mul : Double → Double → Double
  | .nan, _ => .nan
  | _, .nan => .nan
  | .infinite s, .infinite t => .infinite (s != t)
  | .infinite s, .finite y => if y.isZero then .nan else .infinite (s != y.negative)
  | .finite x, .infinite t => if x.isZero then .nan else .infinite (x.negative != t)
  | .finite x, .finite y => .ofUnits (x.negative != y.negative) (x.units * y.units) unitsPerOne

def div : Double → Double → Double
  | .nan, _ => .nan
  | _, .nan => .nan
  | .infinite _, .infinite _ => .nan
  | .infinite s, .finite y => .infinite (s != y.negative)
  | .finite x, .infinite t => .ofRank (x.negative != t) 0
  | .finite x, .finite y =>
    if y.isZero then if x.isZero then .nan else .infinite (x.negative != y.negative)
    else .ofRatio (x.negative != y.negative) x.units y.units

instance : Neg Double := ⟨neg⟩
instance : Add Double := ⟨add⟩
instance : Sub Double := ⟨sub⟩
instance : Mul Double := ⟨mul⟩
instance : Div Double := ⟨div⟩

def le : Double → Double → Bool
  | .nan, _ => false
  | _, .nan => false
  | .infinite s, .infinite t => s || !t
  | .infinite s, .finite _ => s
  | .finite _, .infinite t => !t
  | .finite x, .finite y => x.signedUnits ≤ y.signedUnits

def lt : Double → Double → Bool
  | .nan, _ => false
  | _, .nan => false
  | a, b => !le b a

def same (a b : Double) : Bool := le a b && le b a

def minNumber (a b : Double) : Double :=
  match a, b with
  | .nan, b => b
  | a, .nan => a
  | a, b => if lt b a then b else a

def powSteps : Nat → Nat → Double → Double → Double
  | 0, _, _, product => product
  | fuel + 1, n, base, product =>
    let product := if n % 2 = 1 then product * base else product
    if n / 2 = 0 then product else powSteps fuel (n / 2) (base * base) product

def pow (base : Double) (n : Nat) : Double :=
  if n = 0 then .one else powSteps (Nat.log2 n + 1) n base .one

-- The whole number of the value without its fraction, kept in `[0, limit]`; zero for no number.
def toNatClamped (limit : Nat) : Double → Nat
  | .nan => 0
  | .infinite s => if s then 0 else limit
  | .finite x => if x.negative then 0 else min limit (x.units / unitsPerOne)

-- The nearest whole number, a half going away from zero. The sign stays.
def roundAway : Double → Double
  | .finite x => .ofRatio x.negative (roundDiv .up x.units unitsPerOne) 1
  | d => d

end Double
end TidyRows
