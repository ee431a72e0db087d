import CgroupBench.Decimal.Shortest

/-!
# Laying out shortest digits

Digits are written positionally while the power of ten of the first one lies within
bounds, and with an exponent otherwise. An integral value keeps one zero behind the point.
-/
namespace CgroupBench.Decimal

structure Bounds where
  /-- Least power of ten of the first digit that is written positionally. -/
  least : Int
  /-- Greatest such power. -/
  greatest : Int
deriving DecidableEq, Repr

def zeros (count : Nat) : List Char :=
  List.replicate count '0'

def positional (digits : List Char) (exponent : Int) : List Char :=
  let whole := digits.length + exponent
  if 0 ≤ exponent then digits ++ zeros exponent.toNat ++ ['.', '0']
  else if 0 < whole then digits.take whole.toNat ++ '.' :: digits.drop whole.toNat
  else '0' :: '.' :: zeros (-whole).toNat ++ digits

/-- One digit before the point, and an exponent that always has a sign. -/
def scientific (digits : List Char) (power : Int) : List Char :=
  let mantissa := match digits with
    | first :: rest@(_ :: _) => first :: '.' :: rest
    | _ => digits
  let sign := if power < 0 then '-' else '+'
  mantissa ++ 'e' :: sign :: Nat.toDigits 10 power.natAbs

def Scaled.layout (bounds : Bounds) (number : Scaled) : List Char :=
  let digits := Nat.toDigits 10 number.digits
  let power := digits.length + number.exponent - 1
  if bounds.least ≤ power ∧ power ≤ bounds.greatest then positional digits number.exponent
  else scientific digits power

def Finite.layout (bounds : Bounds) (value : Finite) : String :=
  let text := value.shortest.layout bounds
  .ofList (if value.negative then '-' :: text else text)

end CgroupBench.Decimal
