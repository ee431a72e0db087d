import CgroupBench.CommandLine.Command
import CgroupBench.CommandLine.Failure
import CgroupBench.Executor
import CgroupBench.Series
import CgroupBench.Summary

/-!
# Running a series

The matrix is run and summed up, and the results are stored even if the series was
stopped; a failure to store them is then the one reported. A signal to terminate replays
what the journal held at that moment and ends the command.
-/
namespace CgroupBench.CommandLine

/-- Exit status after a signal, 128 and the number of the interrupt signal. -/
def interruptedStatus : Status := 130

def notice (search : FileSearch) (settings : RunSettings) (runs : Nat) : List String :=
  let sizes := ", ".intercalate (search.cgroupSizes.map Size.format)
  let descriptor := settings.descriptor.getD "-"
  let policy := if settings.keepGoing then "CONTINUE" else "ABORT"
  heading s!"DAMONBENCH: {FileSearch.name.toUpper}" ++ [
    s!"DATA DIR:        {search.dataDir}",
    s!"PATTERN:         {search.pattern}",
    s!"RUNS:            {runs}",
    s!"CGROUP SIZES:    {sizes}",
    s!"DEFAULT ONLY:    {settings.matrix.request.defaultOnly}",
    s!"DAMON CONFIG:    {descriptor}",
    s!"ON FAILURE:      {policy}",
    ""]

def summaryLines (measurements : List Measurement) (runs : Nat) : List String :=
  "" :: heading s!"DAMONBENCH SUMMARY ({measurements.length} OF {runs} RUNS)"
    ++ Summary.table measurements ++ [rule]

/-- A runner of its own, from its probe to its closing. -/
def series (search : FileSearch) (settings : RunSettings) (tools : Tools)
    (records : List Record) : Procedure SeriesResult := do
  let runner ← Runner.probe tools (if settings.keepGoing then .goOn else .abort)
  let (result, runner) ← runner.runSeries search.toWorkload records []
  let _ ← runner.close
  return result

/-- What is done when a signal came and this was in the journal. -/
def restoreInterrupted (executor : Executor) (tools : Tools) (journal : List Reversal) :
    OptionT Program Status := do
  complainAll ["", "DAMONBENCH INTERRUPTED -- RESTORING HOST"]
  match ← executor.attend (replay tools journal (.owing Machine.defaultSmtControl)) with
  | (.ok (), _) => return interruptedStatus
  | (.error fault, _) =>
    complainAll [s!"RESTORE INCOMPLETE: {fault.message}",
      "RUN `damonbench restore` BEFORE BENCHMARKING AGAIN"]
    return interruptedStatus

def conclude (settings : RunSettings) (result : SeriesResult) (runs : Nat) : Program Status := do
  printAll (summaryLines result.measurements runs)
  let stored ← match settings.output with
    | none => pure (.ok ())
    | some path => Storage.save path result.measurements
  match stored, result.ending with
  | .error error, _ => fail (.ofStorage error)
  | .ok (), .stopped fault => fail (Failure.during "benchmark aborted" (.ofFault fault))
  | .ok (), .panicked => return 101
  | .ok (), .finished => return 0

def benchmark (search : FileSearch) (settings : RunSettings) : OptionT Program Status := do
  if ¬ (← Program.send (.isDirectory search.dataDir)) then
    fail { message := s!"filesearch data directory not found: {search.dataDir}" }
  else match search.records settings.matrix.request with
    | .error fault => fail (.ofFault fault)
    | .ok records =>
      let executor : Executor := { elevated := settings.host.elevated }
      let tools := settings.host.tools settings.attempts.toNat settings.descriptor
      printAll (notice search settings records.length)
      match ← executor.perform (series search settings tools records) {} with
      | .error cleanup => restoreInterrupted executor tools cleanup.journal
      | .ok result => conclude settings result records.length

end CgroupBench.CommandLine
