import CgroupBench.Variant
import CgroupBench.Workload

/-!
# The file search

A recursive text search over a directory, a number of times in a row, its output thrown
away. No pass at all would succeed without running anything and is refused.
-/
namespace CgroupBench

structure FileSearch where
  dataDir : String
  pattern : String := "write"
  passes : List UInt32 := [20]
  cgroupSizes : List UInt64 := [1073741824]
deriving DecidableEq, Repr

namespace FileSearch

def name : String := "filesearch"

def zeroPasses : Fault :=
  .configuration s!"{Key.passes} must be at least 1"

/-- The variants a matrix covers; the restricted one holds the baseline alone. -/
def variants (defaultOnly : Bool) : List Variant :=
  if defaultOnly then [.baseline] else Variant.all

def dimensions (search : FileSearch) (defaultOnly : Bool) : List (String × List Value) :=
  [(Key.passes, search.passes.map fun passes => .int passes.toUInt64),
    (Key.cgroupSize, search.cgroupSizes.map .int),
    (Key.cgroupName, (variants defaultOnly).map fun variant => .text variant.label),
    (Key.benchmark, [.text name])]

def records (search : FileSearch) (request : MatrixRequest) : Except Fault (List Record) :=
  if 0 ∈ search.passes then .error zeroPasses
  else
    let matrix : Matrix := {}
    ((matrix.options (search.dimensions request.defaultOnly)).options request.extra)
      |>.iterations request.iterations |>.build

def command (search : FileSearch) (record : Record) : Except Fault Invocation := do
  let passes ← record.int Key.passes
  if UInt32.size ≤ passes.toNat then
    .error (.configuration s!"passes {passes.toNat} out of range")
  else if passes = 0 then
    .error zeroPasses
  else
    return { argv := ["rg", search.pattern, search.dataDir],
             repeats := passes.toUInt32, discardStdout := true }

def toWorkload (search : FileSearch) : Workload where
  name := name
  command record := search.command record

end FileSearch
end CgroupBench
