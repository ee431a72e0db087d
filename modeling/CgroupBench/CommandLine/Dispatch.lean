import CgroupBench.CommandLine.Benchmark
import CgroupBench.CommandLine.HostCheck
import CgroupBench.CommandLine.Plan
import CgroupBench.CommandLine.Restoration

/-!
# From arguments to an exit status

Arguments that name no command are refused with status two; a request for help is
answered with success. A command that a signal ends without a handler has no status.
-/
namespace CgroupBench.CommandLine

def usage : List String := [
  "usage: damonbench [--verbose] <run | plan | check | restore> [options]",
  "",
  "  run      run the file-search matrix",
  "  plan     print the matrix without touching the host",
  "  check    look whether the host can run a benchmark",
  "  restore  undo what a killed run left behind"]

def refuse (refusal : Refusal) : Program Status := do
  if refusal = .helpWanted then
    printAll usage
    return 0
  else
    complainAll (s!"error: {refusal.message}" :: "" :: usage)
    return 2

def Command.perform : Command → OptionT Program Status
  | run search settings => benchmark search settings
  | plan search request => CommandLine.plan search request
  | check => hostCheck
  | restore settings => restoration settings

def perform (arguments : List String) : Program (Option Status) :=
  match Command.ofArguments arguments with
  | .error refusal => some <$> refuse refusal
  | .ok command => command.perform.run

end CgroupBench.CommandLine
