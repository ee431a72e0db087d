import CgroupBench.Fault

/-!
# Calls to the host

Everything the lifecycle does to the host is one of four calls, each an argument vector
or a path, never a shell line. A workload call is timed by whoever answers it.
-/
namespace CgroupBench

structure Output where
  /-- No code means that a signal ended the program. -/
  code : Option Int := some 0
  stdout : String := ""
  stderr : String := ""
deriving DecidableEq, Repr

def Output.success (output : Output) : Bool :=
  output.code == some 0

/-- An argument vector and how often it is run back to back. -/
structure Invocation where
  argv : List String
  repeats : UInt32 := 1
  discardStdout : Bool := false
deriving DecidableEq, Repr

structure Duration where
  seconds : UInt64
  nanoseconds : UInt32
deriving DecidableEq, Repr

/-- Whole nanoseconds beyond a second are carried into the seconds. -/
def Duration.ofParts (seconds nanoseconds : Nat) : Duration where
  seconds := .ofNat (seconds + nanoseconds / 1000000000)
  nanoseconds := .ofNat (nanoseconds % 1000000000)

def Duration.toSeconds (duration : Duration) : Float :=
  duration.seconds.toFloat + duration.nanoseconds.toFloat / 1e9

/-- The output of a workload and the wall-clock time until it was there. -/
structure Timed where
  output : Output
  elapsed : Duration
deriving DecidableEq, Repr

inductive Call where
  | run (argv : List String)
  | write (path : String) (contents : String)
  | read (path : String)
  | workload (scope : String) (invocation : Invocation)
deriving DecidableEq, Repr

namespace Call

/-- What a call gives when it succeeds. -/
abbrev Answer : Call → Type
  | run _ => Output
  | write _ _ => Unit
  | read _ => String
  | workload _ _ => Timed

abbrev Reply (call : Call) : Type :=
  Except CallError call.Answer

end Call

/-- An argument vector as it is shown, without quoting. -/
def showArgv (argv : List String) : String :=
  " ".intercalate argv

end CgroupBench
