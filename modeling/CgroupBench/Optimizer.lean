import CgroupBench.Step

/-!
# The optimizer

The optimizer is started and stopped by its control program. The descriptor that binds
it to a cgroup is a file named on the command line and is passed through untouched. A
stop that exits with an error means that nothing was running.
-/
namespace CgroupBench

structure Optimizer where
  program : String := "damo"
  descriptor : Option String := none
deriving DecidableEq, Repr

namespace Optimizer

def startArgv (optimizer : Optimizer) (descriptor : String) : List String :=
  [optimizer.program, "start", "--kdamonds", descriptor]

def stopArgv (optimizer : Optimizer) : List String :=
  [optimizer.program, "stop"]

def tolerateStopped : Except CallError Output → Except CallError Unit
  | .ok _ | .error (.exited _ _ _) => .ok ()
  | .error cause => .error cause

def attach (optimizer : Optimizer) : Step Boundary Unit := do
  let variant := (← Step.get).variant
  match optimizer.descriptor with
  | none =>
    Step.fail <| .configuration
      s!"{variant.label} requests the optimizer but no optimizer config was given"
  | some descriptor =>
    let _ ← Step.setup s!"start optimizer for {variant.label}" <|
      Procedure.run (optimizer.startArgv descriptor)
    Step.modify fun boundary => { boundary with optimizerAttached := true }

def detach (optimizer : Optimizer) : Procedure (Except CallError Unit) := do
  return tolerateStopped (← Procedure.run optimizer.stopArgv)

/-- No optimizer of an earlier run may leak into a baseline run. -/
def ensureStopped {σ : Type} (optimizer : Optimizer) : Step σ Unit :=
  Step.setup "ensure optimizer stopped" optimizer.detach

end Optimizer
end CgroupBench
