import CgroupBench.Record

/-!
# Configuration matrices

Each dimension multiplies the records built so far by its candidate values, so the last
dimension varies fastest. A dimension given twice is remembered and reported when the
matrix is built; it never changes the records.
-/
namespace CgroupBench

/-- Every record with every value, the values of one record next to each other. -/
def Record.expand (records : List Record) (name : String) (values : List Value) : List Record :=
  records.flatMap fun record => values.map (record.append name)

/-- The values 1 to `iterations`. -/
def iterationValues (iterations : UInt32) : List Value :=
  (List.range iterations.toNat).map fun index => .int (.ofNat (index + 1))

structure Matrix where
  records : List Record := [{}]
  names : List String := []
  /-- Names given again, once for each repetition. -/
  repeated : List String := []
deriving DecidableEq, Repr

namespace Matrix

def option (matrix : Matrix) (name : String) (values : List Value) : Matrix :=
  if name ∈ matrix.names then
    { matrix with repeated := matrix.repeated ++ [name] }
  else
    { matrix with
      names := matrix.names ++ [name]
      records := Record.expand matrix.records name values }

def options (matrix : Matrix) (dimensions : List (String × List Value)) : Matrix :=
  dimensions.foldl (fun matrix (name, values) => matrix.option name values) matrix

def iterations (matrix : Matrix) (count : UInt32) : Matrix :=
  matrix.option Key.iteration (iterationValues count)

def build (matrix : Matrix) : Except Fault (List Record) :=
  if matrix.repeated ≠ [] then
    let repeated := ", ".intercalate matrix.repeated
    .error (.configuration s!"option dimension(s) given more than once: {repeated}")
  else if matrix.names = [] ∨ matrix.records = [] then
    .error (.configuration "configuration matrix is empty")
  else
    .ok matrix.records

end Matrix
end CgroupBench
