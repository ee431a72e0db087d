import CgroupBench.SystemError

/-!
# What can go wrong

A host call fails with a `CallError`. The lifecycle wraps it into a `Fault`, which
knows how far it may spread: `Severity.run` ends the current run, `Severity.fatal` the
whole series. Nothing here says which call is wrapped how; that is decided where the
call is made.
-/
namespace CgroupBench

inductive CallError where
  /-- The program could not be started at all. -/
  | unlaunchable (program : String) (cause : SystemError)
  /-- The command ran and did not exit with zero; no code means a signal. -/
  | exited (command : String) (code : Option Int) (stderr : String)
  | access (operation : String) (path : String) (cause : SystemError)
deriving DecidableEq, Repr

namespace CallError

def exitLabel : Option Int → String
  | some code => toString code
  | none => "signal"

def message : CallError → String
  | unlaunchable program cause => s!"cannot launch `{program}`: {cause.message}"
  | exited command code stderr => s!"`{command}` exited with {exitLabel code}: {stderr}"
  | access operation path cause => s!"{operation} {path}: {cause.message}"

/-- The tool itself is missing, so nothing that follows can be trusted. -/
def isUnlaunchable : CallError → Bool
  | unlaunchable _ _ => true
  | _ => false

def isExit : CallError → Bool
  | exited _ _ _ => true
  | _ => false

/-- The texts of the errors underneath, outermost first. -/
def causes : CallError → List String
  | unlaunchable _ cause => [cause.message]
  | exited _ _ _ => []
  | access _ _ cause => [cause.message]

end CallError

inductive Severity where
  | run
  | fatal
deriving DecidableEq, Repr

inductive Fault where
  | setup (what : String) (cause : CallError)
  | teardown (what : String) (cause : CallError)
  | workload (benchmark : String) (cause : CallError)
  | result (benchmark : String) (reason : String)
  | configuration (reason : String)
  | hostState (what : String) (cause : CallError)
  | smtRestore (cause : CallError)
deriving DecidableEq, Repr

namespace Fault

/-- A set-up failure; with the tool itself missing it is a failure of the host. -/
def ofSetup (what : String) (cause : CallError) : Fault :=
  if cause.isUnlaunchable then .hostState what cause else .setup what cause

def severity : Fault → Severity
  | setup _ _ | teardown _ _ | workload _ _ | result _ _ => .run
  | configuration _ | hostState _ _ | smtRestore _ => .fatal

def message : Fault → String
  | setup what cause => s!"resource setup failed ({what}): {cause.message}"
  | teardown what cause => s!"resource teardown failed ({what}): {cause.message}"
  | workload benchmark cause => s!"workload `{benchmark}` failed: {cause.message}"
  | result benchmark reason => s!"could not build result for `{benchmark}`: {reason}"
  | configuration reason => s!"configuration error: {reason}"
  | hostState what cause => s!"host state failure ({what}): {cause.message}"
  | smtRestore cause => s!"SMT could not be re-enabled, host left degraded: {cause.message}"

def cause? : Fault → Option CallError
  | setup _ cause | teardown _ cause | workload _ cause | hostState _ cause
  | smtRestore cause => some cause
  | result _ _ | configuration _ => none

/-- The texts of the errors underneath, outermost first. -/
def causes (fault : Fault) : List String :=
  match fault.cause? with
  | some cause => cause.message :: cause.causes
  | none => []

def isSmtRestore : Fault → Bool
  | smtRestore _ => true
  | _ => false

def isConfiguration : Fault → Bool
  | configuration _ => true
  | _ => false

end Fault
end CgroupBench
