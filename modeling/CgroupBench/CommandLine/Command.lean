import CgroupBench.CommandLine.Options
import CgroupBench.FileSearch
import CgroupBench.Size
import CgroupBench.Unwind

/-!
# Commands

What the arguments ask for: a series of runs, its plan, a look at the host, or its
restoration. Options that are not given keep the defaults of the settings; the passes and
the sizes have one value each by default, which the first given value replaces.
-/
namespace CgroupBench.CommandLine

structure MatrixSettings where
  dataDir : Option String := none
  pattern : String := "write"
  request : MatrixRequest := { iterations := 1 }
  passes : List UInt32 := []
  cgroupSizes : List UInt64 := []

structure HostSettings where
  program : String := "damo"
  root : String := "/sys/fs/cgroup"
  elevated : Bool := true

structure RunSettings where
  matrix : MatrixSettings := {}
  host : HostSettings := {}
  descriptor : Option String := none
  output : Option String := none
  keepGoing : Bool := false
  attempts : UInt32 := 3

structure RestoreSettings where
  host : HostSettings := {}
  keepSmtOff : Bool := false

inductive Command where
  | run (search : FileSearch) (settings : RunSettings)
  | plan (search : FileSearch) (request : MatrixRequest)
  | check
  | restore (settings : RestoreSettings)

/-- Options that every command takes. What they ask for concerns no answer. -/
def commonTable (σ : Type) : Table σ := [
  ("help", .help),
  ("verbose", .flag id)]

def matrixTable : Table MatrixSettings := [
  ("data-dir", .path fun value settings => { settings with dataDir := some value }),
  ("pattern", .text fun value settings => { settings with pattern := value }),
  ("iterations", .count fun value settings =>
    { settings with request.iterations := value }),
  ("passes", .value true fun value settings => (Effect.count? 1 value).map fun count =>
    { settings with passes := settings.passes ++ [count] }),
  ("cgroup-size", .value true fun value settings => (Size.parse value).toOption.map fun size =>
    { settings with cgroupSizes := settings.cgroupSizes ++ [size] }),
  ("default-only", .flag fun settings => { settings with request.defaultOnly := true })]

def hostTable : Table HostSettings := [
  ("optimizer-program", .text fun value settings => { settings with program := value }),
  ("cgroup-root", .path fun value settings => { settings with root := value }),
  ("no-sudo", .flag fun settings => { settings with elevated := false })]

def Table.within {σ τ : Type} (part : τ → σ) (replace : τ → σ → τ) (table : Table σ) : Table τ :=
  table.map fun (name, effect) => (name, effect.within part replace)

def runTable : Table RunSettings :=
  commonTable RunSettings
    ++ matrixTable.within RunSettings.matrix (fun settings matrix => { settings with matrix })
    ++ hostTable.within RunSettings.host (fun settings host => { settings with host })
    ++ [
  ("optimizer-config", .path fun value settings => { settings with descriptor := some value }),
  ("output", .path fun value settings => { settings with output := some value }),
  ("keep-going", .flag fun settings => { settings with keepGoing := true }),
  ("setup-attempts", .count fun value settings => { settings with attempts := value })]

def restoreTable : Table RestoreSettings :=
  commonTable RestoreSettings
    ++ hostTable.within RestoreSettings.host (fun settings host => { settings with host })
    ++ [("keep-smt-off", .flag fun settings => { settings with keepSmtOff := true })]

def orDefault {α : Type} (values defaults : List α) : List α :=
  if values.isEmpty then defaults else values

def MatrixSettings.search (settings : MatrixSettings) : Except Refusal FileSearch :=
  match settings.dataDir with
  | none => .error (.missingOption "data-dir")
  | some dataDir =>
    let default : FileSearch := { dataDir }
    .ok { dataDir
          pattern := settings.pattern
          passes := orDefault settings.passes default.passes
          cgroupSizes := orDefault settings.cgroupSizes default.cgroupSizes }

/-- Options with nothing behind them. -/
def scanAll {σ : Type} (table : Table σ) (settings : σ) (arguments : List String) :
    Except Refusal σ := do
  let scanned ← scan table [] settings arguments
  match scanned.rest with
  | [] => return scanned.settings
  | argument :: _ => throw (.unexpected argument)

def commandNames : List String :=
  ["run", "plan", "check", "restore", "help"]

def Command.named (name : String) (arguments : List String) : Except Refusal Command := do
  match name with
  | "run" =>
    let settings ← scanAll runTable {} arguments
    return .run (← settings.matrix.search) settings
  | "plan" =>
    let settings ← scanAll (commonTable MatrixSettings ++ matrixTable) {} arguments
    return .plan (← settings.search) settings.request
  | "check" =>
    scanAll (commonTable Unit) () arguments
    return .check
  | "restore" => return .restore (← scanAll restoreTable {} arguments)
  | "help" =>
    match arguments with
    | [] => throw .helpWanted
    | [topic] => throw (if topic ∈ commandNames then .helpWanted else .unexpected topic)
    | _ :: argument :: _ => throw (.unexpected argument)
  | _ => throw (.unexpected name)

def Command.ofArguments (arguments : List String) : Except Refusal Command := do
  let scanned ← scan (commonTable Unit) [] () arguments
  match scanned.rest, scanned.closed with
  | [], _ => throw .missingCommand
  | name :: rest, false => Command.named name rest
  | argument :: _, true => throw (.unexpected argument)

def HostSettings.tools (settings : HostSettings) (attempts : Nat) (descriptor : Option String) :
    Tools where
  cgroups := .ofAttempts settings.root attempts
  optimizer := { program := settings.program, descriptor }

end CgroupBench.CommandLine
