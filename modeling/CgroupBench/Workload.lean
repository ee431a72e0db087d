import CgroupBench.Matrix
import CgroupBench.Measurement

/-!
# Workloads

A workload says which command to run for a record and what its output is worth. The
lifecycle never looks inside the command. Either hook may also break down instead of giving
an answer; the lifecycle then stops where it is.
-/
namespace CgroupBench

/-- What a workload answers when it is asked for its command. -/
inductive Assignment where
  | ok (invocation : Invocation)
  | error (fault : Fault)
  | panicked

instance : Coe (Except Fault Invocation) Assignment where
  coe
    | .ok invocation => .ok invocation
    | .error fault => .error fault

/-- What a workload makes of the output of its command. -/
inductive Inspection where
  | measured (metrics : Metrics)
  | faulty (fault : Fault)
  | panicked

structure Workload where
  name : String
  command : Record → Assignment
  inspect : Output → Duration → Inspection := fun _ elapsed => .measured (.ofElapsed elapsed)

def Workload.Panics (workload : Workload) : Prop :=
  (∃ record, workload.command record = .panicked) ∨
    ∃ output elapsed, workload.inspect output elapsed = .panicked

/-- What a matrix is asked for besides the workload's own dimensions. -/
structure MatrixRequest where
  defaultOnly : Bool := false
  iterations : UInt32
  /-- Expanded after the workload's own dimensions and before the iterations. -/
  extra : List (String × List Value) := []
deriving DecidableEq, Repr

end CgroupBench
