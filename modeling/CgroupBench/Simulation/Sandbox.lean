import CgroupBench.Call
import CgroupBench.Program
import CgroupBench.Simulation.FileTree
import CgroupBench.Simulation.Script

/-!
# An operating system in memory

Programs that are only names, with a script that says what each launch leaves behind, and
a file tree. Without a rule a program succeeds and prints nothing. The clock stands
still. What was started and what was printed is kept.
-/
namespace CgroupBench.Simulation

/-- What a rule makes of a launch. -/
inductive Behaviour where
  | ends (child : Child)
  /-- The program sends the signal to whoever started it. -/
  | interrupts
deriving DecidableEq, Repr

structure Start where
  argv : List String
  input : String
deriving DecidableEq, Repr

structure Sandbox where
  files : FileTree := {}
  programs : List String := []
  script : List (Rule Behaviour) := []
  root : Bool := true
  /-- The programs started so far, in order. -/
  started : List Start := []
  /-- The lines printed so far, in order. -/
  printed : List String := []
  complaints : List String := []
deriving Repr

namespace Sandbox

def nulInArgument : SystemError := .described "nul byte found in provided data"

/-- Why a program cannot be started, if it cannot. A name with a separator is a path, and
no file in the tree may be executed. Any other name is looked up among the programs, where
a dot or two are directories. -/
def launchError? (sandbox : Sandbox) (argv : List String) : Option SystemError :=
  let program := argv.headD ""
  if argv.any fun argument => argument.toList.contains '\x00' then some nulInArgument
  else if program.toList.contains '/' then
    match sandbox.files.locate program with
    | .error cause => some cause
    | .ok .reached => some .permissionDenied
    | .ok (.named directory name slashed) =>
      match (directory.follow name).map Position.node with
      | .error cause => some cause
      | .ok none => some .noSuchFile
      | .ok (some (.file _)) => some (if slashed then .notADirectory else .permissionDenied)
      | .ok (some (.directory _)) => some .permissionDenied
  else if program = "." ∨ program = ".." then some .permissionDenied
  else if sandbox.programs.contains program then none
  else if Position.longestName < program.utf8ByteSize then some .nameTooLong
  else some .noSuchFile

def launch (sandbox : Sandbox) (argv : List String) (input : String) : Launch × Sandbox :=
  match sandbox.launchError? argv with
  | some cause => (.failed cause, sandbox)
  | none =>
    let (behaviour, script) := Rule.select (showArgv argv) sandbox.script
    let started : Start := ⟨argv, input⟩
    let after := { sandbox with script, started := sandbox.started ++ [started] }
    match behaviour with
    | none => (.ended {}, after)
    | some (.ends child) => (.ended child, after)
    | some .interrupts => (.interrupted, after)

/-- Keeps the tree of a change that succeeded. -/
def change (sandbox : Sandbox) (changed : Except SystemError FileTree) :
    Except SystemError Unit × Sandbox :=
  match changed with
  | .ok files => (.ok (), { sandbox with files })
  | .error cause => (.error cause, sandbox)

def answer (sandbox : Sandbox) : (request : Request) → request.Answer × Sandbox
  | .launch argv input => sandbox.launch argv input
  | .readFile path => (sandbox.files.read path, sandbox)
  | .writeFile path contents =>
    sandbox.change (sandbox.files.write path (Text.Utf8.encode contents))
  | .createDirectory path => sandbox.change (sandbox.files.createDirectory path)
  | .isDirectory path => (sandbox.files.isDirectory path, sandbox)
  | .isRoot => (sandbox.root, sandbox)
  | .kernelConfig => (.absent, sandbox)
  | .clock => (0, sandbox)
  | .print line => ((), { sandbox with printed := sandbox.printed ++ [line] })
  | .complain line => ((), { sandbox with complaints := sandbox.complaints ++ [line] })

def run {α : Type} (program : Program α) (sandbox : Sandbox) : α × Sandbox :=
  (program.run (m := StateM Sandbox) fun request sandbox => sandbox.answer request).run sandbox

end Sandbox
end CgroupBench.Simulation
