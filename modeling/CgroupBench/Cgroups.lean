import CgroupBench.Path
import CgroupBench.Step
import CgroupBench.Text.Search

/-!
# Cgroups

Creating a cgroup deletes its name first, so a name never exists twice. Deleting one that
is not there counts as deleted; any other failure means that it may still be alive. The
two set-up calls are retried, but not when the tool itself is missing.
-/
namespace CgroupBench

/-- Where the cgroups are mounted, and how often a failed set-up call is tried again. -/
structure Cgroups where
  root : String := "/sys/fs/cgroup"
  retries : Nat := 2
deriving DecidableEq, Repr

namespace Cgroups

/-- Zero attempts count as one. -/
def ofAttempts (root : String) (attempts : Nat) : Cgroups :=
  ⟨root, attempts - 1⟩

def attempts (cgroups : Cgroups) : Nat :=
  cgroups.retries + 1

def limitPath (cgroups : Cgroups) (variant : Variant) : String :=
  Path.join (Path.join cgroups.root variant.label) "memory.max"

def group (variant : Variant) : String :=
  s!"memory:{variant.label}"

/-- Whether the deletion tool's error text says that there was no such cgroup. -/
def saysAbsent (stderr : String) : Bool :=
  let text := stderr.toList.map Char.toLower
  Text.occurs "no such file or directory".toList text || Text.occurs "does not exist".toList text

def tolerateAbsent : Except CallError Output → Except CallError Unit
  | .ok _ => .ok ()
  | .error (.exited command code stderr) =>
    if saysAbsent stderr then .ok () else .error (.exited command code stderr)
  | .error cause => .error cause

def createArgv (variant : Variant) : List String :=
  ["cgcreate", "-g", group variant]

def deleteArgv (variant : Variant) : List String :=
  ["cgdelete", "-g", group variant]

def delete (variant : Variant) : Procedure (Except CallError Unit) := do
  return tolerateAbsent (← Procedure.run (deleteArgv variant))

/-- Repeats a failing call at most `retries` times, and never one whose tool is missing. -/
def attempt {α : Type} (call : Procedure (Except CallError α)) :
    (retries : Nat) → Procedure (Except CallError α)
  | 0 => call
  | retries + 1 => do
    match ← call with
    | .ok value => return .ok value
    | .error cause => if cause.isUnlaunchable then return .error cause else attempt call retries

def create {σ : Type} (cgroups : Cgroups) (variant : Variant) (memoryLimit : UInt64) :
    Step σ Boundary := do
  Step.setup s!"clear stale {variant.label}" (delete variant)
  let _ ← Step.setup s!"create {variant.label}" <|
    attempt (Procedure.run (createArgv variant)) cgroups.retries
  Step.setup s!"limit {variant.label}" <|
    attempt (Procedure.write (cgroups.limitPath variant) s!"{memoryLimit.toNat}\n") cgroups.retries
  return { variant, memoryLimit }

end Cgroups
end CgroupBench
