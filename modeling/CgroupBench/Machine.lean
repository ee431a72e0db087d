import CgroupBench.Step
import CgroupBench.Text.Blank

/-!
# Machine-wide toggles

The page cache is dropped and swap is switched off before each run; neither is restored.
SMT must come back on every way out, so the machine remembers whether it was switched
off and owes a restore. A machine whose SMT was not on at the start never touches it.
-/
namespace CgroupBench

inductive Smt where
  | on
  | off
  | forceOff
  | notSupported
  | notImplemented
deriving DecidableEq, Repr

namespace Smt

def all : List Smt := [on, off, forceOff, notSupported, notImplemented]

def label : Smt → String
  | on => "on"
  | off => "off"
  | forceOff => "forceoff"
  | notSupported => "notsupported"
  | notImplemented => "notimplemented"

/-- Reads the control file's text, blanks around it aside. -/
def ofText? (text : String) : Option Smt :=
  all.find? (·.label == Text.trim text)

end Smt

structure Machine where
  smtControl : String
  dropCaches : String
  smtAtStart : Smt
  /-- SMT was switched off here and not yet back on. -/
  smtDisabled : Bool := false
  swapDisabled : Bool := false
  dropCount : UInt32 := 0
deriving DecidableEq, Repr

namespace Machine

def defaultSmtControl : String := "/sys/devices/system/cpu/smt/control"
def defaultDropCaches : String := "/proc/sys/vm/drop_caches"

/-- Reads the starting SMT state; a control file that cannot be read or understood
means that SMT is never touched. -/
def probe (smtControl dropCaches : String) : Procedure Machine := do
  let found ← Procedure.read smtControl
  let smt := match found with
    | .ok text => (Smt.ofText? text).getD .notImplemented
    | .error _ => .notImplemented
  return { smtControl, dropCaches, smtAtStart := smt }

/-- How often the page cache was dropped. -/
def cacheDrops (machine : Machine) : Nat :=
  machine.dropCount.toNat

/-- A machine known to have had SMT switched off, without having been probed. -/
def owing (smtControl : String) : Machine where
  smtControl
  dropCaches := defaultDropCaches
  smtAtStart := .on
  smtDisabled := true

/-- Flushes dirty pages, then drops the page cache. -/
def dropPageCache : Step Machine Unit := do
  let _ ← Step.setup "sync" (Procedure.run ["sync"])
  let machine ← Step.get
  Step.setup "drop page cache" (Procedure.write machine.dropCaches "3\n")
  Step.modify fun machine => { machine with dropCount := machine.dropCount + 1 }

def disableSwap : Step Machine Unit := do
  let _ ← Step.setup "disable swap" (Procedure.run ["swapoff", "-a"])
  Step.modify fun machine => { machine with swapDisabled := true }

/-- Whether a restore is owed afterwards. -/
def disableSmt : Step Machine Bool := do
  let machine ← Step.get
  if machine.smtAtStart ≠ .on then
    return false
  else if machine.smtDisabled then
    return true
  else
    Step.setup "disable SMT" (Procedure.write machine.smtControl "off\n")
    Step.modify fun machine => { machine with smtDisabled := true }
    return true

/-- Does nothing unless a restore is owed; a failure leaves it owed. -/
def enableSmt : Step Machine Unit := do
  let machine ← Step.get
  if machine.smtDisabled then
    Step.lift .smtRestore (Procedure.write machine.smtControl "on\n")
    Step.modify fun machine => { machine with smtDisabled := false }

theorem disableSmt_idle {machine : Machine}
    (idle : machine.smtAtStart ≠ .on ∨ machine.smtDisabled = true) :
    ∃ owed, disableSmt machine = .finish (.ok owed, machine) := by
  rw [disableSmt]
  show ∃ owed, (if machine.smtAtStart ≠ .on then _ else _ : Step Machine Bool) machine = _
  by_cases on : machine.smtAtStart = .on
  · rw [if_neg (not_not_intro on), if_pos (idle.resolve_left (not_not_intro on))]
    exact ⟨true, rfl⟩
  · rw [if_pos on]
    exact ⟨false, rfl⟩

theorem disableSmt_due {machine : Machine} (on : machine.smtAtStart = .on)
    (settled : machine.smtDisabled = false) :
    disableSmt machine = (do
      match ← Procedure.write machine.smtControl "off\n" with
      | .ok () => return (.ok true, { machine with smtDisabled := true })
      | .error cause => return (.error (.ofSetup "disable SMT" cause), machine)) := by
  rw [disableSmt]
  show (if machine.smtAtStart ≠ .on then _ else _ : Step Machine Bool) machine = _
  rw [if_neg (not_not_intro on), if_neg (Bool.eq_false_iff.mp settled)]
  refine congrArg (Procedure.ask _) (funext fun reply => ?_)
  cases reply <;> rfl

theorem enableSmt_settled {machine : Machine} (settled : machine.smtDisabled = false) :
    enableSmt machine = pure (.ok (), machine) := by
  show (if machine.smtDisabled = true then _ else _ : Step Machine Unit) machine = _
  rw [settled]
  rfl

theorem enableSmt_owing {machine : Machine} (owing : machine.smtDisabled = true) :
    enableSmt machine = (do
      match ← Procedure.write machine.smtControl "on\n" with
      | .ok () => return (.ok (), { machine with smtDisabled := false })
      | .error cause => return (.error (.smtRestore cause), machine)) := by
  show (if machine.smtDisabled = true then _ else _ : Step Machine Unit) machine = _
  rw [owing]
  show Procedure.ask _ _ = Procedure.ask _ _
  congr 1
  funext reply
  cases reply <;> rfl

end Machine
end CgroupBench
