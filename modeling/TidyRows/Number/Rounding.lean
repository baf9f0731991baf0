import TidyRows.Number.Literal
namespace TidyRows.Double

def maxPlaces : Nat := 12

-- The number that the plain text of `x` writes with its point moved `shift` places to the right.
def movePoint (x : Double) (shift : Int) : Double :=
  ((ofText? (x.plainText ++ 'e' :: intText shift)).getD x)

def roundPlaces (x : Double) (places : Nat) : Double :=
  let p : Int := min places maxPlaces
  movePoint (movePoint x p).roundAway (-p)

end TidyRows.Double
