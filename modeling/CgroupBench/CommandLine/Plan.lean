import CgroupBench.CommandLine.Failure
import CgroupBench.FileSearch

/-!
# Planning

The records of a matrix, numbered from one, without touching the host.
-/
namespace CgroupBench.CommandLine

def numberedRecords (start : Nat) : List Record → List String
  | [] => []
  | record :: rest =>
    let number := Text.padLeft 4 (toString start)
    s!"{number}  {record.display}" :: numberedRecords (start + 1) rest

def planLines (records : List Record) : List String :=
  heading s!"DAMONBENCH PLAN: {FileSearch.name.toUpper}"
    ++ numberedRecords 1 records
    ++ ["", s!"TOTAL RUNS: {records.length}"]

def plan (search : FileSearch) (request : MatrixRequest) : Program Status := do
  match search.records request with
  | .error fault => fail (.ofFault fault)
  | .ok records =>
    printAll (planLines records)
    return 0

end CgroupBench.CommandLine
