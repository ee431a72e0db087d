import CgroupBench.Program
import CgroupBench.Simulation.HostState

/-!
# A system with the host in memory

The tools are programs that only `sudo` can run, and files are written by `tee` under it. The
files can be read by everyone. The clock stands still, and nothing that is printed is kept.
-/
namespace CgroupBench.Simulation.HostState

/-- What a command has left behind when this is its reply. -/
def left : Except CallError Output → Launch
  | .ok output => .ended {
      code := output.code
      stdout := Text.Utf8.encode output.stdout
      stderr := Text.Utf8.encode output.stderr }
  | .error (.exited _ code stderr) => .ended { code, stderr := Text.Utf8.encode stderr }
  | .error (.unlaunchable _ cause) | .error (.access _ _ cause) => .failed cause

def launch (host : HostState) (argv : List String) (input : String) : Launch × HostState :=
  match argv with
  | ["sudo", "tee", path] =>
    let (reply, host) := host.write path input
    (left (reply.map fun _ => {}), host)
  | "sudo" :: command =>
    let (reply, host) := host.run command
    (left reply, host)
  | _ => (.failed .permissionDenied, host)

def serve (host : HostState) : (request : Request) → request.Answer × HostState
  | .launch argv input => host.launch argv input
  | .readFile path =>
    match host.files.lookup path with
    | some contents => (.ok (Text.Utf8.encode contents), host)
    | none => (.error (.described "no such file"), host)
  | .writeFile _ _ | .createDirectory _ => (.error .permissionDenied, host)
  | .isDirectory _ | .isRoot => (false, host)
  | .kernelConfig => (.absent, host)
  | .clock => (0, host)
  | .print _ | .complain _ => ((), host)

def system (request : Request) : StateM HostState request.Answer :=
  fun host => host.serve request

end CgroupBench.Simulation.HostState
