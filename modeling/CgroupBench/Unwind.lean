import CgroupBench.Cgroups
import CgroupBench.Machine
import CgroupBench.Optimizer

/-!
# Unwinding

Reversals are carried out in the order given, and a failed one never keeps the rest from
being tried. The fault reported afterwards is the first failed SMT restore, or else the
first fault of all.
-/
namespace CgroupBench

/-- The tools that reversals work with. -/
structure Tools where
  cgroups : Cgroups := {}
  optimizer : Optimizer := {}
deriving DecidableEq, Repr

namespace Reversal

def perform (tools : Tools) : Reversal → Step Machine Unit
  | enableSmt => Machine.enableSmt
  | deleteCgroup variant =>
    Step.lift (.teardown s!"delete {variant.label}") (Cgroups.delete variant)
  | stopOptimizer => Step.lift (.teardown "stop optimizer") tools.optimizer.detach

/-- Carries out every reversal and collects the faults in order. -/
def performAll (tools : Tools) : List Reversal → Machine → Procedure (List Fault × Machine)
  | [], machine => return ([], machine)
  | reversal :: rest, machine => do
    Procedure.leave (.reversing reversal)
    let (result, machine) ← reversal.perform tools machine
    let (faults, machine) ← performAll tools rest machine
    match result with
    | .ok () => return (faults, machine)
    | .error fault => return (fault :: faults, machine)

end Reversal

/-- A failed SMT restore outranks every other fault; among equals the first counts. -/
def verdict (faults : List Fault) : Except Fault Unit :=
  match (faults.find? Fault.isSmtRestore).or faults.head? with
  | some fault => .error fault
  | none => .ok ()

def unwind (tools : Tools) (reversals : List Reversal) : Step Machine Unit := fun machine => do
  let (faults, machine) ← Reversal.performAll tools reversals machine
  return (verdict faults, machine)

/-- What a termination handler does with the journal it took, newest entry first. -/
def replay (tools : Tools) (journal : List Reversal) : Step Machine Unit :=
  unwind tools journal.reverse

end CgroupBench
