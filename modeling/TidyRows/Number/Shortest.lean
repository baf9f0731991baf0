import TidyRows.Number.Double
namespace TidyRows

-- A non-negative decimal `0.d₁d₂… · 10 ^ point`, its digits most significant first.
structure Decimal where
  digits : List Nat
  point : Int
  deriving DecidableEq, Repr

def decimalDigits (n : Nat) : List Nat :=
  (Nat.toDigits 10 n).map fun c => c.toNat - '0'.toNat

def Decimal.zero : Decimal := ⟨[], 0⟩

def Decimal.ofScaled (n : Nat) (exponent : Int) : Decimal :=
  if n = 0 then .zero
  else
    let all := decimalDigits n
    ⟨(all.reverse.dropWhile (· == 0)).reverse, exponent + all.length⟩

namespace Shortest

-- The reals that round to one number, in half units; the ends belong to it when `closed`.
structure Interval where
  low : Nat
  high : Nat
  closed : Bool

def Interval.ofRank (r : Nat) : Interval :=
  ⟨unitsOfRank (r - 1) + unitsOfRank r, unitsOfRank r + unitsOfRank (r + 1), r % 2 == 0⟩

-- `n / d` half units
def Interval.holds (i : Interval) (n d : Nat) : Bool :=
  if i.closed then i.low * d ≤ n && n ≤ i.high * d else i.low * d < n && n < i.high * d

def tenPower : Int → Nat × Nat
  | .ofNat e => (Nat.pow 10 e, 1)
  | .negSucc k => (1, Nat.pow 10 (k + 1))

def gridStep (exponent : Int) : Nat × Nat :=
  let (n, d) := tenPower exponent
  (n * (2 * unitsPerOne), d)

def neighbour? (tie : Tie) (interval : Interval) (value : Nat) (step : Nat × Nat) : Option Nat :=
  let below := value * step.2 / step.1
  let hits (k : Nat) := k != 0 && interval.holds (k * step.1) step.2
  let nearest := roundDiv tie (value * step.2) step.1
  let other := if nearest = below then below + 1 else below
  if hits nearest then some nearest else if hits other then some other else none

def onGrid (tie : Tie) (r : Nat) (exponent : Int) : Option Nat :=
  neighbour? tie (.ofRank r) (2 * unitsOfRank r) (gridStep exponent)

def reaches (r : Nat) (e : Int) : Bool :=
  let (n, d) := tenPower e
  n * unitsPerOne ≤ unitsOfRank r * d

-- The power of ten just above the value: `value < 10 ^ e` and `10 ^ (e - 1) ≤ value`.
def leadingExponent (r : Nat) : Int :=
  let guess : Int := ((Nat.log2 (unitsOfRank r) : Int) - 1074) * 30103 / 100000
  if reaches r (guess + 1) then guess + 2 else if reaches r guess then guess + 1 else guess

def maxDigits : Nat := 17

def search (tie : Tie) (r : Nat) (leading : Int) : Option Decimal :=
  (List.range maxDigits).findSome? fun i =>
    (onGrid tie r (leading - (i + 1 : Nat))).map (Decimal.ofScaled · (leading - (i + 1 : Nat)))

end Shortest

-- Seventeen digits always suffice.
def shortestDecimal (tie : Tie) (r : Nat) : Decimal :=
  if r = 0 then .zero else (Shortest.search tie r (Shortest.leadingExponent r)).getD .zero

end TidyRows
