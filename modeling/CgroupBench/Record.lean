import CgroupBench.Fault

/-!
# Configuration records

A record is an ordered list of named option values. A name may occur twice; looking it up
finds the first occurrence, while the list of names shows every one.
-/
namespace CgroupBench

inductive Value where
  | int (value : UInt64)
  | text (value : String)
deriving DecidableEq, Repr

namespace Value

def display : Value → String
  | int value => toString value.toNat
  | text value => value

def int? : Value → Option UInt64
  | int value => some value
  | text _ => none

def text? : Value → Option String
  | text value => some value
  | int _ => none

end Value

structure Record where
  entries : List (String × Value) := []
deriving DecidableEq, Repr

namespace Record

def get? (record : Record) (name : String) : Option Value :=
  record.entries.lookup name

def names (record : Record) : List String :=
  record.entries.map (·.1)

/-- The record with one more entry at its end. -/
def append (record : Record) (name : String) (value : Value) : Record :=
  ⟨record.entries ++ [(name, value)]⟩

private def missing (name kind : String) : Fault :=
  .configuration s!"option `{name}` missing or not {kind}"

def int (record : Record) (name : String) : Except Fault UInt64 :=
  match (record.get? name).bind Value.int? with
  | some value => .ok value
  | none => .error (missing name "an integer")

def text (record : Record) (name : String) : Except Fault String :=
  match (record.get? name).bind Value.text? with
  | some value => .ok value
  | none => .error (missing name "a string")

def display (record : Record) : String :=
  " ".intercalate <| record.entries.map fun (name, value) => s!"{name}={value.display}"

end Record

/-! The options that the lifecycle and the file search read. -/

namespace Key

def benchmark : String := "benchmark"
def cgroupName : String := "cgroup_name"
def cgroupSize : String := "cgroup_size"
def iteration : String := "iteration"
def passes : String := "passes"

end Key
end CgroupBench
