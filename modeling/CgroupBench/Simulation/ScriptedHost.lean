import CgroupBench.Procedure
import CgroupBench.Simulation.HostState
import CgroupBench.Simulation.Script

/-!
# A scripted host

A host in memory whose calls a script may override, by a failure or by a success that
leaves the host as it was. A call is matched by its text.
-/
namespace CgroupBench

namespace Call

def text : Call → String
  | run argv => s!"run {showArgv argv}"
  | write path contents => s!"write {path} {contents}"
  | read path => s!"read {path}"
  | workload scope invocation =>
    let { argv, repeats, discardStdout } := invocation
    let command := showArgv argv
    s!"workload {scope} repeat={repeats.toNat} discard={discardStdout} {command}"

/-- The argument vector of the command that does the same as the call. -/
def command : Call → List String
  | run argv => argv
  | write path _ => ["tee", path]
  | read path => ["cat", path]
  | workload scope invocation => "cgexec" :: "-g" :: s!"memory:{scope}" :: invocation.argv

def operation : Call → String
  | run _ => "run"
  | write _ _ => "write"
  | read _ => "read"
  | workload _ _ => "workload"

/-- The path of a file access; the other calls have none. -/
def path : Call → String
  | write path _ | read path => path
  | run _ | workload _ _ => "-"

/-- The successful answer that a given program output stands for. -/
def answerOf (output : Output) : (call : Call) → call.Answer
  | run _ => output
  | write _ _ => ()
  | read _ => output.stdout
  | workload _ _ => ⟨output, ⟨0, 0⟩⟩

/-- How a logged call ended. -/
def outcome {call : Call} : call.Reply → String
  | .ok _ => "ok"
  | .error (.exited _ _ _) => "failed"
  | .error (.unlaunchable _ _) => "unavailable"
  | .error (.access _ _ _) => "io"

end Call

namespace Simulation

inductive Override where
  | exited (code : Option Int) (stderr : String)
  /-- Without a name, the program of the command is the one that is missing. -/
  | unlaunchable (program : Option String) (cause : SystemError)
  | access (cause : SystemError)
  | succeed (output : Output)
deriving DecidableEq, Repr

def Override.reply (call : Call) : Override → call.Reply
  | exited code stderr => .error (.exited (showArgv call.command) code stderr)
  | unlaunchable program cause =>
    .error (.unlaunchable (program.getD (call.command.headD "")) cause)
  | access cause => .error (.access call.operation call.path cause)
  | succeed output => .ok (call.answerOf output)

structure ScriptedHost where
  state : HostState := {}
  script : List (Rule Override) := []
deriving Repr

namespace ScriptedHost

def answer (host : ScriptedHost) (call : Call) : call.Reply × ScriptedHost :=
  match Rule.select call.text host.script with
  | (some override, script) => (override.reply call, { host with script })
  | (none, script) =>
    let (reply, state) := host.state.answer call
    (reply, { state, script })

def host : Host ScriptedHost :=
  ⟨answer⟩

end ScriptedHost
end Simulation

/-- A history as a log of calls, one line each. -/
def Event.log : List Event → List String
  | [] => []
  | .called call reply :: rest => s!"{call.text} -> {Call.outcome reply}" :: log rest
  | .noted _ :: rest => log rest

end CgroupBench
