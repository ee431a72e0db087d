/-!
# Finite floats as exact numbers

A 64-bit float is read from its bits as a sign, a natural number and a power of two, or
as one of the values that are no number. All later arithmetic on it is exact.
-/
namespace CgroupBench.Decimal

/-- The number ± mantissa · 2^exponent. -/
structure Finite where
  negative : Bool
  mantissa : Nat
  exponent : Int
  /-- The neighbour toward zero is half as far away as the one beyond. -/
  narrow : Bool
deriving DecidableEq, Repr

inductive Reading where
  | notANumber
  | infinite (negative : Bool)
  | finite (value : Finite)
deriving DecidableEq, Repr

/-- How many fractions there are for each exponent. -/
def fractions : Nat := Nat.pow 2 52

def Reading.ofBits (bits : Nat) : Reading :=
  let negative := bits / Nat.pow 2 63 % 2 == 1
  let biased : Nat := bits / fractions % 2048
  let fraction : Nat := bits % fractions
  if biased = 2047 then
    if fraction = 0 then .infinite negative else .notANumber
  else if biased = 0 then
    .finite ⟨negative, fraction, -1074, false⟩
  else
    .finite ⟨negative, fractions + fraction, (biased : Int) - 1075, fraction == 0 && biased > 1⟩

def Reading.ofFloat (value : Float) : Reading :=
  .ofBits value.toBits.toNat

namespace Finite

/-- The magnitude as a fraction with a positive denominator. -/
def ratio (value : Finite) : Nat × Nat :=
  (value.mantissa * Nat.pow 2 value.exponent.toNat, Nat.pow 2 (-value.exponent).toNat)

end Finite
end CgroupBench.Decimal
