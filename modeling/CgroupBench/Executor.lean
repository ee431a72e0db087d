import CgroupBench.Procedure
import CgroupBench.Program
import CgroupBench.Text.Tail

/-!
# Carrying out calls

Calls become programs that are launched and files that are read and written. Commands
and writes may be raised to another user by launching them through `sudo`, a write as
`tee` with the contents on its input; reads and workloads never are. Nothing passes
through a shell. A step that a signal interrupts has no value.
-/
namespace CgroupBench

/-- What a child printed, read as text that replaces what is malformed. -/
def Child.output (child : Child) : Output where
  code := child.code
  stdout := Text.Utf8.decodeLossy child.stdout
  stderr := Text.Utf8.decodeLossy child.stderr

structure Executor where
  elevated : Bool := true
deriving DecidableEq, Repr

namespace Executor

/-- How many bytes of an error output are kept. -/
def errorLimit : Nat := 512

def launch (argv : List String) (input : String) : OptionT Program (Except SystemError Child) := do
  match ← Program.send (.launch argv input) with
  | .failed cause => return .error cause
  | .ended child => return .ok child
  | .interrupted => failure

/-- An output counts as a success with code zero only; the error shows its end. -/
def accept (argv : List String) (output : Output) : Except CallError Output :=
  if output.success then .ok output
  else .error (.exited (showArgv argv) output.code (Text.tail errorLimit output.stderr))

def elevate (executor : Executor) (argv : List String) : List String :=
  if executor.elevated then "sudo" :: argv else argv

def run (executor : Executor) (argv : List String) : OptionT Program (Except CallError Output) := do
  if argv = [] then return .error (.exited "" none "empty argument vector")
  else
    let command := executor.elevate argv
    match ← launch command "" with
    | .error cause => return .error (.unlaunchable (command.headD "") cause)
    | .ok child => return accept argv child.output

def write (executor : Executor) (path contents : String) :
    OptionT Program (Except CallError Unit) := do
  if executor.elevated then
    match ← launch ["sudo", "tee", path] contents with
    | .error cause => return .error (.unlaunchable "sudo" cause)
    | .ok child => return (accept ["tee", path] child.output).map fun _ => ()
  else
    let written ← Program.send (.writeFile path contents)
    return written.mapError (.access "write" path)

def read (path : String) : OptionT Program (Except CallError String) := do
  return (← Program.readText path).mapError (.access "read" path)

/-- The output so far with one more pass behind it. -/
def append (discardStdout : Bool) (soFar pass : Output) : Output where
  code := pass.code
  stdout := if discardStdout then soFar.stdout else soFar.stdout ++ pass.stdout
  stderr := soFar.stderr ++ pass.stderr

/-- Runs a command again and again, up to the first pass that does not succeed. -/
def passes (argv : List String) (discardStdout : Bool) :
    Nat → Output → OptionT Program (Except SystemError Output)
  | 0, soFar => return .ok soFar
  | count + 1, soFar => do
    match ← launch argv "" with
    | .error cause => return .error cause
    | .ok child =>
      let soFar := append discardStdout soFar child.output
      if soFar.success then passes argv discardStdout count soFar else return .ok soFar

def workload (scope : String) (invocation : Invocation) :
    OptionT Program (Except CallError Timed) := do
  let argv := "cgexec" :: "-g" :: s!"memory:{scope}" :: invocation.argv
  let started ← Program.send .clock
  match ← passes argv invocation.discardStdout invocation.repeats.toNat {} with
  | .error cause => return .error (.unlaunchable "cgexec" cause)
  | .ok output =>
    let ended ← Program.send .clock
    return (accept argv output).map (⟨·, .ofParts 0 (ended - started)⟩)

def answer (executor : Executor) : (call : Call) → OptionT Program call.Reply
  | .run argv => executor.run argv
  | .write path contents => executor.write path contents
  | .read path => read path
  | .workload scope invocation => workload scope invocation

/-- Carries a procedure out, or gives what the journal held when a signal came. -/
def perform {α : Type} (executor : Executor) : Procedure α → Cleanup → Program (Except Cleanup α)
  | .finish value, _ => return .ok value
  | .note note next, cleanup => executor.perform next (note.apply cleanup)
  | .ask call next, cleanup => do
    match ← (executor.answer call).run with
    | some reply => executor.perform (next reply) cleanup
    | none => return .error cleanup

/-- Carries a procedure out where nobody handles a signal. -/
def attend {α : Type} (executor : Executor) (procedure : Procedure α) : OptionT Program α := do
  match ← executor.perform procedure {} with
  | .ok value => return value
  | .error _ => failure

end Executor
end CgroupBench
