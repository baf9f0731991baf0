import TidyRows.Number.Shortest
namespace TidyRows

def digitChar (d : Nat) : Char := Char.ofNat ('0'.toNat + d)

def digitText (ds : List Nat) : List Char := ds.map digitChar

def natText (n : Nat) : List Char := Nat.toDigits 10 n

def intText (n : Int) : List Char := if n < 0 then '-' :: natText n.natAbs else natText n.natAbs

def paddedText (width n : Nat) : List Char :=
  let t := natText n
  List.replicate (width - t.length) '0' ++ t

namespace Decimal

def positional (d : Decimal) : List Char × List Char :=
  if d.point ≤ 0 then (['0'], List.replicate d.point.natAbs '0' ++ digitText d.digits)
  else
    let p := d.point.toNat
    let whole := d.digits.take p ++ List.replicate (p - d.digits.length) 0
    (digitText whole, digitText (d.digits.drop p))

def scientific (d : Decimal) : List Char :=
  let exponent := d.point - 1
  let rest := digitText (d.digits.drop 1)
  digitText (d.digits.take 1)
    ++ (if rest.isEmpty then [] else '.' :: rest)
    ++ 'e' :: (if exponent < 0 then '-' else '+') :: natText exponent.natAbs

end Decimal

def signText (negative : Bool) : List Char := if negative then ['-'] else []

namespace Finite

-- The text of a number in structured data. It always shows that the number is not a whole one of its own kind: a point,
-- or an exponent outside `-5 … 15`.
def dataText (x : Finite) : List Char :=
  let d := shortestDecimal .toEven x.rank
  signText x.negative ++
    if d.digits.isEmpty then ['0', '.', '0']
    else if -4 ≤ d.point ∧ d.point ≤ 16 then
      let (whole, fraction) := d.positional
      whole ++ '.' :: (if fraction.isEmpty then ['0'] else fraction)
    else d.scientific

def plainText (x : Finite) : List Char :=
  let d := shortestDecimal .up x.rank
  signText x.negative ++
    if d.digits.isEmpty then ['0']
    else
      let (whole, fraction) := d.positional
      if fraction.isEmpty then whole else whole ++ '.' :: fraction

def fixedText (places : Nat) (x : Finite) : List Char :=
  let n := roundDiv .toEven (x.units * Nat.pow 10 places) unitsPerOne
  let whole := natText (n / Nat.pow 10 places)
  signText x.negative ++ if places = 0 then whole else whole ++ '.' :: paddedText places (n % Nat.pow 10 places)

end Finite

namespace Double

def plainText : Double → List Char
  | .nan => ['N', 'a', 'N']
  | .infinite s => signText s ++ ['i', 'n', 'f']
  | .finite x => x.plainText

def fixedText (places : Nat) : Double → List Char
  | .nan => ['N', 'a', 'N']
  | .infinite s => signText s ++ ['i', 'n', 'f']
  | .finite x => x.fixedText places

end Double
end TidyRows
