import CgroupBench.Decimal.Finite

/-!
# A fixed number of places

The exact value of a float is rounded to the given number of decimal places, a half going
to the even neighbour. The sign of a negative value is kept even where all digits shown
are zero.
-/
namespace CgroupBench.Decimal

/-- The quotient rounded to the nearest natural number, a half to the even one. -/
def divideRounded (numerator denominator : Nat) : Nat :=
  let quotient := numerator / denominator
  let remainder := numerator % denominator
  if 2 * remainder < denominator then quotient
  else if denominator < 2 * remainder then quotient + 1
  else if quotient % 2 = 0 then quotient else quotient + 1

/-- A natural number in units of 10^-places, with a point. -/
def withPoint (places count : Nat) : String :=
  let digits := Nat.toDigits 10 count
  let padded := List.replicate (places + 1 - digits.length) '0' ++ digits
  let whole := padded.length - places
  if places = 0 then .ofList padded
  else .ofList (padded.take whole ++ '.' :: padded.drop whole)

def Finite.toPlaces (value : Finite) (places : Nat) : String :=
  let (numerator, denominator) := value.ratio
  let text := withPoint places (divideRounded (numerator * Nat.pow 10 places) denominator)
  if value.negative then "-" ++ text else text

def toPlaces (value : Float) (places : Nat) : String :=
  match Reading.ofFloat value with
  | .notANumber => "NaN"
  | .infinite negative => if negative then "-inf" else "inf"
  | .finite value => value.toPlaces places

end CgroupBench.Decimal
