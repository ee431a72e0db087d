import CgroupBench.CommandLine.Command
import CgroupBench.CommandLine.Failure
import CgroupBench.Executor

/-!
# Restoring the host

Everything that a killed series may have left behind is undone. SMT is switched on only
if it is off and is not meant to stay so.
-/
namespace CgroupBench.CommandLine

/-- The machine that restores: one that owes SMT if it was found off. -/
def restorer (found : Machine) (keepSmtOff : Bool) : Machine :=
  if found.smtAtStart = .off ∧ ¬ keepSmtOff then .owing Machine.defaultSmtControl else found

def restorationLines (found : Machine) : List String :=
  heading "DAMONBENCH RESTORE" ++ [s!"SMT AT START:    {found.smtAtStart.label}"]
    ++ Reversal.outermost.reverse.map fun reversal => s!"  {reversal.label.toUpper}"

def restoration (settings : RestoreSettings) : OptionT Program Status := do
  let executor : Executor := { elevated := settings.host.elevated }
  let tools := settings.host.tools 3 none
  let found ← executor.attend (Machine.probe Machine.defaultSmtControl Machine.defaultDropCaches)
  printAll (restorationLines found)
  let machine := restorer found settings.keepSmtOff
  match ← executor.attend (replay tools Reversal.outermost machine) with
  | (.error fault, _) => fail (Failure.during "host restore incomplete" (.ofFault fault))
  | (.ok (), _) =>
    let text ← executor.attend (Procedure.read Machine.defaultSmtControl)
    let smt := match text with
      | .ok text => Text.trim text
      | .error _ => "-"
    printAll [s!"SMT NOW:         {smt}", "RESTORE COMPLETE"]
    return 0

end CgroupBench.CommandLine
