import CgroupBench.Runner

/-!
# A series of runs

A list of records is checked as a whole before the host is touched, and then run in
order. A fatal fault ends the series; a failed run ends it too unless the policy is to go
on. At the end an SMT restore that is still owed is tried once more, and its failure is
reported if nothing else went wrong.
-/
namespace CgroupBench

inductive SeriesEnd where
  | finished
  | stopped (fault : Fault)
  | panicked
deriving DecidableEq, Repr

/-- How a series ended, and the measurements taken before and during it. -/
structure SeriesResult where
  ending : SeriesEnd
  measurements : List Measurement

namespace Runner

/-- Whether one record can be run at all. -/
def accept (optimizer : Optimizer) (record : Record) : Except Fault Unit := do
  let target ← Target.ofRecord record
  if target.variant.isOptimized ∧ optimizer.descriptor = none then
    .error (.configuration s!"{target.variant.label} runs require an optimizer config")

def acceptAll (optimizer : Optimizer) (first : Record) : List Record → Except Fault Unit
  | [] => .ok ()
  | record :: rest => do
    if record.names ≠ first.names then
      .error <| .configuration
        s!"inconsistent option keys: `{record.display}` vs `{first.display}`"
    accept optimizer record
    acceptAll optimizer first rest

def preflight (optimizer : Optimizer) (records : List Record) : Except Fault Unit :=
  match records with
  | [] => .error (.configuration "no configurations to run")
  | first :: _ => acceptAll optimizer first records

/-- The runs of a series, without the check before and the restore after them. -/
def runEach (workload : Workload) : List Record → List Measurement → Runner →
    Procedure (SeriesResult × Runner)
  | [], measurements, runner => return (⟨.finished, measurements⟩, runner)
  | record :: rest, measurements, runner => do
    match ← run workload record runner with
    | (.completed measurement, runner) =>
      runEach workload rest (measurements ++ [measurement]) runner
    | (.failed fault, runner) =>
      match runner.policy with
      | .goOn => runEach workload rest measurements runner
      | .abort => return (⟨.stopped fault, measurements⟩, runner)
    | (.fatal fault measurement, runner) =>
      return (⟨.stopped fault, measurements ++ measurement.toList⟩, runner)
    | (.panicked, runner) => return (⟨.panicked, measurements⟩, runner)

/-- Tries an owed SMT restore; its failure is reported only where nothing else was. -/
def settle (result : SeriesResult) (runner : Runner) : Procedure (SeriesResult × Runner) := do
  let (restored, runner) ← onMachine Machine.enableSmt runner
  match result.ending, restored with
  | .finished, .error fault => return ({ result with ending := .stopped fault }, runner)
  | _, _ => return (result, runner)

def runSeries (workload : Workload) (records : List Record) (measurements : List Measurement)
    (runner : Runner) : Procedure (SeriesResult × Runner) := do
  match preflight runner.tools.optimizer records with
  | .error fault => return (⟨.stopped fault, measurements⟩, runner)
  | .ok () =>
    match ← runEach workload records measurements runner with
    | (⟨.panicked, measurements⟩, runner) => return (⟨.panicked, measurements⟩, runner)
    | (result, runner) => settle result runner

/-- Gives the runner up: whatever is still pending is unwound, and SMT comes back. -/
def close (runner : Runner) : Procedure Runner := do
  let runner ←
    if runner.cleanup.pending = [] then pure runner
    else do
      let (_, runner) ← tearDown runner
      pure runner
  let (_, runner) ← onMachine Machine.enableSmt runner
  return runner

end Runner
end CgroupBench
