import CgroupBench.Decimal.Places
import CgroupBench.Text.Blank
import CgroupBench.Text.Digit

/-!
# Memory sizes

A size is a natural number, an optional binary unit, and blanks around both. Units are
read without regard to case; the Kelvin sign counts as a letter k in the pattern, but
only the ASCII letters k, m and g name their units, and every other accepted letter names
the largest one.
-/
namespace CgroupBench.Size

inductive NumberError where
  | invalidDigit
  | tooLarge
deriving DecidableEq, Repr

inductive Error where
  | malformed (text : String)
  | number (text : String) (cause : NumberError)
  | overflow (text : String)
deriving DecidableEq, Repr

def NumberError.message : NumberError → String
  | invalidDigit => "invalid digit found in string"
  | tooLarge => "number too large to fit in target type"

def Error.message : Error → String
  | malformed text => s!"invalid size `{text}` (expected e.g. 1GiB, 512M, 4096)"
  | number text cause => s!"invalid size `{text}`: {cause.message}"
  | overflow text => s!"size `{text}` overflows u64"

/-- One more than the greatest size. -/
def limit : Nat := UInt64.size

def scale (power : Nat) : Nat := Nat.pow 2 power

/-- Reads digits from the left and stops at the first that is not ASCII or too much. -/
def readNumber (soFar : Nat) : List Char → Except NumberError Nat
  | [] => .ok soFar
  | c :: rest =>
    match Text.digitValue? c with
    | none => .error .invalidDigit
    | some digit =>
      if 10 * soFar + digit < limit then readNumber (10 * soFar + digit) rest
      else .error .tooLarge

def kelvinSign : Char := '\u212a'

def isUnitLetter (c : Char) : Bool :=
  c.toLower ∈ ['k', 'm', 'g', 't'] || c == kelvinSign

/-- The power of two that a unit letter multiplies by. -/
def power (letter : Char) : Nat :=
  match letter.toLower with
  | 'k' => 10
  | 'm' => 20
  | 'g' => 30
  | _ => 40

/-- Drops the optional rest of a unit, `b` or `ib`. -/
def dropUnitEnd : List Char → List Char
  | [] => []
  | c :: rest =>
    if c.toLower = 'b' then rest
    else match rest with
      | d :: more => if c.toLower = 'i' ∧ d.toLower = 'b' then more else c :: rest
      | [] => c :: rest

/-- Splits a unit off the front: the power of two it stands for, and what follows it. -/
def splitUnit : List Char → Nat × List Char
  | [] => (0, [])
  | c :: rest =>
    if isUnitLetter c then (power c, dropUnitEnd rest)
    else if c.toLower = 'b' then (0, rest)
    else (0, c :: rest)

/-- The digits and the power of two of a text that has the form of a size. -/
def split? (text : List Char) : Option (List Char × Nat) :=
  let start := Text.trimStart text
  let digits := start.takeWhile Text.isDecimal
  let (power, rest) := splitUnit (Text.trimStart (start.dropWhile Text.isDecimal))
  if digits ≠ [] ∧ Text.trimStart rest = [] then some (digits, power) else none

def parse (text : String) : Except Error UInt64 :=
  match split? text.toList with
  | none => .error (.malformed text)
  | some (digits, power) =>
    match readNumber 0 digits with
    | .error cause => .error (.number text cause)
    | .ok number =>
      if number * scale power < limit then .ok (.ofNat (number * scale power))
      else .error (.overflow text)

/-- The units from the greatest down, with the powers of two they stand for. -/
def units : List (Nat × String) :=
  [(40, "TiB"), (30, "GiB"), (20, "MiB"), (10, "KiB")]

/-- In the greatest unit that is not above the size: exactly if it divides the size, and
otherwise with two places. -/
def format (size : UInt64) : String :=
  let n := size.toNat
  match units.find? fun unit => scale unit.1 ≤ n with
  | none => s!"{n} B"
  | some (power, label) =>
    if n % scale power = 0 then s!"{n / scale power} {label}"
    else
      let quotient := Decimal.toPlaces (size.toFloat / (UInt64.ofNat (scale power)).toFloat) 2
      s!"{quotient} {label}"

end CgroupBench.Size
