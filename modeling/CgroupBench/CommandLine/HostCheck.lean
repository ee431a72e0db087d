import CgroupBench.CommandLine.Failure
import CgroupBench.Executor
import CgroupBench.Machine
import CgroupBench.Text.Blank
import CgroupBench.Path

/-!
# Checking the host

The tools on the path, the kernel options, the memory controller and the SMT control are
looked at in turn. A kernel that does not tell its configuration and a missing SMT
control are no failures; everything else that is missing is.
-/
namespace CgroupBench.CommandLine

def toolNames : List String :=
  ["sudo", "cgcreate", "cgdelete", "cgexec", "damo", "rg", "swapoff", "sync"]

def kernelOptions : List String :=
  ["CONFIG_MEMCG", "CONFIG_DAMON"]

def checkLine (name verdict : String) : String :=
  "  " ++ Text.padRight 24 name ++ verdict

def hasTool (name : String) : OptionT Program Bool := do
  match ← Executor.launch ["which", name] "" with
  | .error _ => return false
  | .ok child => return child.code == some 0

/-- Prints a verdict on each tool, and gives whether none is missing that is needed. -/
def checkTools : List String → OptionT Program Bool
  | [] => return true
  | name :: rest => do
    let found ← hasTool name
    let spared ← if ¬ found ∧ name = "sudo" then Program.send .isRoot else pure false
    Program.print <| checkLine name <|
      if found then "OK"
      else if spared then "MISSING (RUNNING AS ROOT, USE --no-sudo)"
      else "MISSING"
    return (← checkTools rest) && (found || spared)

def checkKernel : Program Bool := do
  match ← Program.send .kernelConfig with
  | .absent =>
    Program.print "  /proc/config.gz       NOT FOUND (SKIPPED)"
    return true
  | .unreadable =>
    Program.print "  /proc/config.gz       UNREADABLE (SKIPPED)"
    return true
  | .found text =>
    printAll <| kernelOptions.map fun option =>
      checkLine option (if KernelConfig.enables text option then "OK" else "NOT FOUND")
    return kernelOptions.all (KernelConfig.enables text)

def checkController (root : String) : Program Bool := do
  match ← Program.readText (Path.join root "cgroup.controllers") with
  | .error _ =>
    Program.print (checkLine "cgroup v2" s!"NOT MOUNTED AT {root}")
    return false
  | .ok text =>
    let mounted := (Text.words text).contains "memory"
    Program.print <| checkLine "cgroup v2 memory" <|
      if mounted then s!"OK ({root})" else "MEMORY CONTROLLER NOT ENABLED"
    return mounted

def checkSmt : Program Unit := do
  let text := match ← Program.readText Machine.defaultSmtControl with
    | .ok text => text
    | .error _ => ""
  Program.print <| checkLine "smt control" <|
    match Smt.ofText? text with
    | some smt => smt.label.toUpper
    | none => "UNREADABLE (SMT WILL NOT BE TOGGLED)"

/-- Looks again for the tools that can be installed, and says how. -/
def printAdvice : OptionT Program Unit := do
  let groups ← if ← hasTool "cgcreate" then hasTool "cgexec" else pure false
  if ¬ groups then
    Program.print "  Install libcgroup tools: apt install cgroup-tools"
  if ¬ (← hasTool "damo") then
    Program.print "  Install damo: pip install damo"
  if ¬ (← hasTool "rg") then
    Program.print "  Install ripgrep: apt install ripgrep"

def hostCheck : OptionT Program Status := do
  printAll ["DAMONBENCH DEPENDENCY CHECK", ""]
  let tools ← checkTools toolNames
  printAll ["", "KERNEL CONFIG:"]
  let kernel ← checkKernel
  printAll ["", "HOST:"]
  let controller ← checkController "/sys/fs/cgroup"
  checkSmt
  Program.print ""
  if tools && kernel && controller then
    Program.print "ALL CHECKS PASSED"
    return 0
  else
    Program.print "SOME CHECKS FAILED"
    printAdvice
    return 1

end CgroupBench.CommandLine
