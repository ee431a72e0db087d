import CgroupBench.Decimal.Notation

/-!
# JSON values

A value keeps its members in order and may hold a name twice. A number is kept as its
text, so that no digit is lost between writing and reading.
-/
namespace CgroupBench

inductive Json where
  | null
  | boolean (value : Bool)
  | number (text : String)
  | string (value : String)
  | array (items : List Json)
  | object (members : List (String × Json))

namespace Json

def ofNat (n : Nat) : Json :=
  .number (toString n)

/-- Numbers between 10^-5 and 10^16 are written without an exponent. -/
def bounds : Decimal.Bounds where
  least := -5
  greatest := 15

/-- A float with the fewest digits that read back; what is no finite number is null. -/
def ofFloat (value : Float) : Json :=
  match Decimal.Reading.ofFloat value with
  | .finite value => .number (value.layout bounds)
  | _ => .null

end Json
end CgroupBench
