import CgroupBench.Storage
import CgroupBench.Text.Pad

/-!
# Reported failures

A failure that ends a command is reported with everything behind it: one cause is only
indented, several are numbered from zero, outermost first. Further lines of a cause stand
below its first one.
-/
namespace CgroupBench.CommandLine

structure Failure where
  message : String
  /-- The texts of what is behind it, outermost first. -/
  causes : List String := []
deriving DecidableEq, Repr

namespace Failure

def ofFault (fault : Fault) : Failure :=
  ⟨fault.message, fault.causes⟩

/-- A failure of something larger because of this one. -/
def during (activity : String) (failure : Failure) : Failure :=
  ⟨activity, failure.message :: failure.causes⟩

def ofStorage (error : StorageError) : Failure :=
  ⟨error.activity, [error.cause.message]⟩

/-- The lines of a text, with one indentation before the first and another before the rest. -/
def indent (first others : String) (text : String) : List String :=
  match text.toList.splitOn '\n' with
  | [] => []
  | line :: rest => (first ++ .ofList line) :: rest.map fun line => others ++ .ofList line

def numbered (start : Nat) : List String → List String
  | [] => []
  | cause :: rest =>
    let number := Text.padLeft 5 (toString start)
    indent s!"{number}: " "       " cause ++ numbered (start + 1) rest

def causeLines : List String → List String
  | [] => []
  | [cause] => "" :: "Caused by:" :: indent "    " "    " cause
  | causes => "" :: "Caused by:" :: numbered 0 causes

def lines (failure : Failure) : List String :=
  s!"Error: {failure.message}" :: causeLines failure.causes

end Failure

/-- The exit status of a command. -/
abbrev Status := UInt32

def printAll (lines : List String) : Program Unit :=
  lines.forM Program.print

def complainAll (lines : List String) : Program Unit :=
  lines.forM Program.complain

def fail (failure : Failure) : Program Status := do
  complainAll failure.lines
  return 1

/-- The line above and below a heading. -/
def rule : String :=
  .ofList (List.replicate 62 '=')

def heading (text : String) : List String :=
  [rule, text, rule]

end CgroupBench.CommandLine
