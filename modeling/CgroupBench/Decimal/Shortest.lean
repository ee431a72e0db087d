import CgroupBench.Decimal.Finite

/-!
# The fewest digits that read back

The reals that round to a float form an interval, its ends included exactly when the
mantissa is even. For one digit, two digits and so on, the two neighbours of the value on
the decimal grid are tested against that interval in natural numbers; the first grid with
a hit gives the digits. That seventeen digits always suffice is not shown here: were they
not enough, the exact decimal would be given.
-/
namespace CgroupBench.Decimal

/-- The number digits · 10^exponent. -/
structure Scaled where
  digits : Nat
  exponent : Int
deriving DecidableEq, Repr

/-- Moves the zeros at the end of the digits into the exponent. -/
def Scaled.strip (number : Scaled) : Scaled :=
  if number.digits = 0 then ⟨0, 0⟩
  else if number.digits % 10 = 0 then Scaled.strip ⟨number.digits / 10, number.exponent + 1⟩
  else number
termination_by number.digits

def digitCount (n : Nat) : Nat :=
  (Nat.toDigits 10 n).length

namespace Finite

/-- The least power of ten above the value; zero has none and is given zero. -/
def scale (value : Finite) : Int :=
  let (numerator, denominator) := value.ratio
  if numerator = 0 then 0
  else if denominator ≤ numerator then digitCount (numerator / denominator)
  else
    let places := digitCount (denominator / numerator)
    if numerator * Nat.pow 10 (places - 1) = denominator then 2 - (places : Int) else 1 - (places : Int)

/-- The value in units of 10^grid, as a fraction. -/
def inUnits (value : Finite) (grid : Int) : Nat × Nat :=
  let (numerator, denominator) := value.ratio
  (numerator * Nat.pow 10 (-grid).toNat, denominator * Nat.pow 10 grid.toNat)

/-- Whether count · 10^grid rounds to the value. -/
def readsBack (value : Finite) (grid : Int) (count : Nat) : Bool :=
  let unit := Nat.pow 10 (-grid).toNat * Nat.pow 2 value.exponent.toNat
  let point := 4 * count * (value.inUnits grid).2
  let low := (4 * value.mantissa - if value.narrow then 1 else 2) * unit
  let high := (4 * value.mantissa + 2) * unit
  if value.mantissa % 2 = 0 then low ≤ point && point ≤ high else low < point && point < high

/-- The neighbour on the grid that rounds to the value; of two the nearer, and of two
equally near ones the even. -/
def onGrid? (value : Finite) (grid : Int) : Option Scaled :=
  let (numerator, denominator) := value.inUnits grid
  let below := numerator / denominator
  let above := below + 1
  match value.readsBack grid below, value.readsBack grid above with
  | true, false => some ⟨below, grid⟩
  | false, true => some ⟨above, grid⟩
  | false, false => none
  | true, true =>
    let twice := 2 * numerator
    let middle := (below + above) * denominator
    if twice < middle ∨ (twice = middle ∧ below % 2 = 0) then some ⟨below, grid⟩
    else some ⟨above, grid⟩

def exact (value : Finite) : Scaled :=
  ⟨value.mantissa * Nat.pow 2 value.exponent.toNat * Nat.pow 5 (-value.exponent).toNat,
    -((-value.exponent).toNat : Int)⟩

def shortest (value : Finite) : Scaled :=
  let grids := (List.range 17).map fun (count : Nat) => value.scale - (count : Int) - 1
  Scaled.strip ((grids.findSome? value.onGrid?).getD value.exact)

end Finite
end CgroupBench.Decimal
