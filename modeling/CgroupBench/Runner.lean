import CgroupBench.Unwind
import CgroupBench.Workload

/-!
# One run

A run prepares the host, launches its workload, lets the workload inspect the output, and
unwinds. Each reversal is registered before its step touches the host, so a run that ends
early unwinds exactly what it may have changed. SMT is switched off last and, unwinding
newest first, comes back right after the workload.
-/
namespace CgroupBench

/-- What becomes of a series after a run that failed without being fatal. -/
inductive FailurePolicy where
  | abort
  | goOn
deriving DecidableEq, Repr

structure Runner where
  tools : Tools
  policy : FailurePolicy := .abort
  machine : Machine
  cleanup : Cleanup := {}
  stage : Stage := .idle
  /-- The stages of the latest run. -/
  stages : List Stage := [.idle]
  /-- The boundary of the run in progress. -/
  active : Option Boundary := none

/-- The host-facing part of a record. -/
structure Target where
  variant : Variant
  memoryLimit : UInt64
deriving DecidableEq, Repr

def Target.ofRecord (record : Record) : Except Fault Target := do
  let variant ← Variant.ofLabel (← record.text Key.cgroupName)
  let memoryLimit ← record.int Key.cgroupSize
  if memoryLimit = 0 then
    .error (.configuration s!"{Key.cgroupSize} must be non-zero")
  else
    return { variant, memoryLimit }

inductive RunEnd where
  | completed (measurement : Measurement)
  | failed (fault : Fault)
  /-- A measurement may survive a fatal unwinding. -/
  | fatal (fault : Fault) (measurement : Option Measurement)
  /-- A hook of the workload broke down; nothing was unwound. -/
  | panicked

namespace Runner

/-- A runner on a machine that is probed now. -/
def probeAt (smtControl dropCaches : String) (tools : Tools) (policy : FailurePolicy) :
    Procedure Runner := do
  let machine ← Machine.probe smtControl dropCaches
  return { tools, policy, machine }

def probe : Tools → FailurePolicy → Procedure Runner :=
  probeAt Machine.defaultSmtControl Machine.defaultDropCaches

def enter (stage : Stage) : Step Runner Unit := do
  Step.leave (.entered stage)
  Step.modify fun runner => { runner with stage, stages := runner.stages ++ [stage] }

def register (reversal : Reversal) : Step Runner Unit := do
  Step.leave (.registered reversal)
  Step.modify fun runner => { runner with cleanup := runner.cleanup.register reversal }

def occupy (boundary : Option Boundary) : Step Runner Unit := do
  Step.leave (.occupied boundary)
  Step.modify fun runner => { runner with active := boundary }

def onMachine {α : Type} (step : Step Machine α) : Step Runner α :=
  Step.onPart Runner.machine (fun machine runner => { runner with machine }) step

/-- Creates the cgroup and, for the optimized variant, starts the optimizer for it. -/
def setUp (target : Target) : Step Runner Unit := do
  let tools := (← Step.get).tools
  register (.deleteCgroup target.variant)
  let boundary ← tools.cgroups.create target.variant target.memoryLimit
  if target.variant.isOptimized then
    register .stopOptimizer
    let (attached, boundary) ← fun runner => do
      let (attached, boundary) ← tools.optimizer.attach boundary
      return (.ok (attached, boundary), runner)
    occupy (some boundary)
    Step.ofExcept attached
  else
    occupy (some boundary)

/-- Switches SMT off if it was on at the start, as well as that can be done. -/
def quiesce : Step Runner Unit := do
  let machine := (← Step.get).machine
  if machine.smtAtStart = .on then
    register .enableSmt
    Step.bestEffort (onMachine Machine.disableSmt)

/-- What a preparation does to the host. -/
def makeReady (target : Target) : Step Runner Unit := do
  Step.bestEffort (onMachine Machine.dropPageCache)
  Step.bestEffort (onMachine Machine.disableSwap)
  let tools := (← Step.get).tools
  if ¬ target.variant.isOptimized then
    tools.optimizer.ensureStopped
  setUp target
  quiesce

/-- Everything that can fail without touching the host comes first. Gives nothing if the
workload broke down when it was asked for its command. -/
def prepare (workload : Workload) (record : Record) :
    Step Runner (Option (Variant × Invocation)) := do
  let target ← Step.ofExcept (Target.ofRecord record)
  match workload.command record with
  | .panicked => return none
  | .error fault => Step.fail fault
  | .ok invocation =>
    makeReady target
    return some (target.variant, invocation)

/-- The fault of a workload that could not be launched or did not succeed. -/
def launchFault (benchmark : String) (cause : CallError) : Fault :=
  if cause.isUnlaunchable then .hostState s!"launch {benchmark}" cause
  else .workload benchmark cause

/-- Gives nothing if the result hook broke down. -/
def measure (workload : Workload) (record : Record) (variant : Variant)
    (invocation : Invocation) : Step Runner (Option Measurement) := do
  enter .running
  let timed ← Step.lift (launchFault workload.name) <|
    Procedure.workload variant.label invocation
  enter .capturing
  Step.leave (.inspected timed.output)
  match workload.inspect timed.output timed.elapsed with
  | .measured metrics => return some { record, metrics }
  | .faulty fault => Step.fail fault
  | .panicked => return none

def tearDown : Step Runner Unit := fun runner => do
  let (reversals, cleanup) := runner.cleanup.drain
  Procedure.leave .drained
  let (result, machine) ← unwind runner.tools reversals runner.machine
  Procedure.leave (.occupied none)
  return (result, { runner with cleanup, machine, active := none })

/-- Unwinds after a run that gave a measurement. What is left alive then makes the next
run unsafe, so a failure here is fatal whatever its own severity. -/
def conclude (measurement : Measurement) (runner : Runner) : Procedure (RunEnd × Runner) := do
  let (_, runner) ← enter .tearingDown runner
  match ← tearDown runner with
  | (.ok (), runner) =>
    let (_, runner) ← enter .done runner
    return (.completed measurement, runner)
  | (.error fault, runner) =>
    let (_, runner) ← enter .aborted runner
    return (.fatal fault (some measurement), runner)

/-- Unwinds after a fault. A host that could not be restored outranks that fault. -/
def rollBack (fault : Fault) (runner : Runner) : Procedure (RunEnd × Runner) := do
  let (_, runner) ← enter .aborted runner
  match ← tearDown runner with
  | (.ok (), runner) =>
    match fault.severity with
    | .run => return (.failed fault, runner)
    | .fatal => return (.fatal fault none, runner)
  | (.error unrestored, runner) => return (.fatal unrestored none, runner)

def begin : Step Runner Unit := do
  Step.leave (.entered .idle)
  Step.modify fun runner => { runner with stage := .idle, stages := [.idle] }
  enter .preparing

/-- A run without its unwinding. -/
def attempt (workload : Workload) (record : Record) : Step Runner (Option Measurement) := do
  begin
  match ← prepare workload record with
  | some (variant, invocation) => measure workload record variant invocation
  | none => return none

def run (workload : Workload) (record : Record) (runner : Runner) :
    Procedure (RunEnd × Runner) := do
  match ← attempt workload record runner with
  | (.ok (some measurement), runner) => conclude measurement runner
  | (.ok none, runner) => return (.panicked, runner)
  | (.error fault, runner) => rollBack fault runner

end Runner
end CgroupBench
