import CgroupBench.Call
import CgroupBench.Path
import CgroupBench.Simulation.Entries

/-!
# A host in memory

Files, cgroups with their limits, swap and the optimizer, and what the tools do to them.
A cgroup that exists cannot be created again, a missing or busy one cannot be deleted,
and an optimizer that is not running cannot be stopped. Any other command succeeds and
changes nothing.
-/
namespace CgroupBench.Simulation

structure HostState where
  files : List (String × String) := []
  /-- Each cgroup with the text of its limit, once one was written. -/
  cgroups : List (String × Option String) := []
  /-- The cgroups that cannot be deleted. -/
  busy : List String := []
  swap : Bool := true
  optimizer : Bool := false
  /-- What every workload prints. -/
  output : Output := {}
deriving DecidableEq, Repr

/-- The name after `memory:` in a controller argument. -/
def groupName? (argument : String) : Option String :=
  let start := "memory:".toList
  if start.isPrefixOf argument.toList then some (.ofList (argument.toList.drop start.length))
  else none

/-- The cgroup whose limit a path names. -/
def limitOwner? (path : String) : Option String :=
  match (Path.pieces path).reverse with
  | "memory.max" :: owner :: _ => some owner
  | _ => none

namespace HostState

def hasCgroup (host : HostState) (name : String) : Bool :=
  (host.cgroups.lookup name).isSome

/-- A command that ran and exited with one. -/
def refuse {α : Type} (argv : List String) (stderr : String) : Except CallError α :=
  .error (.exited (showArgv argv) (some 1) stderr)

def createCgroup (host : HostState) (argv : List String) (name : String) :
    Except CallError Output × HostState :=
  if host.hasCgroup name then (refuse argv s!"cgcreate: group '{name}' already exists", host)
  else (.ok {}, { host with cgroups := assign name none host.cgroups })

def deleteCgroup (host : HostState) (argv : List String) (name : String) :
    Except CallError Output × HostState :=
  let refused := s!"cgdelete: cannot remove group '{name}': "
  if ¬ host.hasCgroup name then (refuse argv (refused ++ "No such file or directory"), host)
  else if name ∈ host.busy then (refuse argv (refused ++ "Device or resource busy"), host)
  else (.ok {}, { host with cgroups := remove name host.cgroups })

def stopOptimizer (host : HostState) (argv : List String) : Except CallError Output × HostState :=
  if host.optimizer then (.ok {}, { host with optimizer := false })
  else (refuse argv "no running kdamond", host)

def run (host : HostState) (argv : List String) : Except CallError Output × HostState :=
  match argv with
  | ["swapoff", "-a"] => (.ok {}, { host with swap := false })
  | ["cgcreate", "-g", group] =>
    match groupName? group with
    | some name => host.createCgroup argv name
    | none => (.ok {}, host)
  | ["cgdelete", "-g", group] =>
    match groupName? group with
    | some name => host.deleteCgroup argv name
    | none => (.ok {}, host)
  | [_, "start", "--kdamonds", _] => (.ok {}, { host with optimizer := true })
  | [_, "stop"] => host.stopOptimizer argv
  | _ => (.ok {}, host)

def write (host : HostState) (path contents : String) : Except CallError Unit × HostState :=
  match limitOwner? path with
  | some owner =>
    if host.hasCgroup owner then
      (.ok (), { host with cgroups := assign owner (some contents) host.cgroups })
    else (.error (.access "write" path (.described "no such cgroup")), host)
  | none => (.ok (), { host with files := assign path contents host.files })

def read (host : HostState) (path : String) : Except CallError String :=
  match host.files.lookup path with
  | some contents => .ok contents
  | none => .error (.access "read" path (.described "no such file"))

/-- What the tools do when nothing interferes. A workload takes no time. -/
def answer (host : HostState) : (call : Call) → call.Reply × HostState
  | .run argv => host.run argv
  | .write path contents => host.write path contents
  | .read path => (host.read path, host)
  | .workload _ _ => (.ok ⟨host.output, ⟨0, 0⟩⟩, host)

end HostState
end CgroupBench.Simulation
