import CgroupBench.Proofs.Delivery
import CgroupBench.Proofs.FaithfulHost

/-!
# The course of an unwinding

Each reversal makes one call, excuses what says that there was nothing to reverse, and turns
any other error into its fault; only the restore of SMT makes no call where none is owed. A
condition on the reversals that are still to come and on the faults so far, once it is shown
for one call of any reversal, holds through a whole unwinding.
-/
namespace CgroupBench

namespace Reversal

/-- The call by which a reversal is carried out. -/
def call (site : Site) : Reversal → Call
  | enableSmt => .write site.smtControl "on\n"
  | deleteCgroup variant => .run (Cgroups.deleteArgv variant)
  | stopOptimizer => .run site.tools.optimizer.stopArgv

/-- The errors which say that there was nothing to reverse. -/
def excuses : Reversal → CallError → Bool
  | enableSmt, _ => false
  | deleteCgroup _, cause => cause.saysAbsent
  | stopOptimizer, cause => cause.isExit

/-- What any other error becomes. -/
def fault : Reversal → CallError → Fault
  | enableSmt, cause => .smtRestore cause
  | deleteCgroup variant, cause => .teardown s!"delete {variant.label}" cause
  | stopOptimizer, cause => .teardown "stop optimizer" cause

/-- The machine once the reversal has been carried out. -/
def settle : Reversal → Machine → Machine
  | enableSmt, machine => { machine with smtDisabled := false }
  | _, machine => machine

/-- The tool of a reversal is never excused for being missing. -/
theorem excuses_of_isUnlaunchable {cause : CallError} (missing : cause.isUnlaunchable = true)
    (reversal : Reversal) : reversal.excuses cause = false := by
  cases cause with
  | unlaunchable program cause => cases reversal <;> rfl
  | exited command code stderr => cases missing
  | access operation path cause => cases missing

theorem smtControl_settle (reversal : Reversal) (machine : Machine) :
    (reversal.settle machine).smtControl = machine.smtControl := by
  cases reversal <;> rfl

theorem dropCaches_settle (reversal : Reversal) (machine : Machine) :
    (reversal.settle machine).dropCaches = machine.dropCaches := by
  cases reversal <;> rfl

end Reversal

theorem Runner.WorksAt.settle {site : Site} {runner : Runner} {machine : Machine}
    (h : ({ runner with machine } : Runner).WorksAt site) (reversal : Reversal) :
    ({ runner with machine := reversal.settle machine } : Runner).WorksAt site where
  tools := h.tools
  smtControl := (reversal.smtControl_settle machine).trans h.smtControl
  dropCaches := (reversal.dropCaches_settle machine).trans h.dropCaches

/-- A condition on the faults so far and on the reversals to come that each reversal keeps. -/
structure Unwinding {σ κ : Type} (site : Site) (watch : Watch σ κ)
    (inv : List Fault → List Reversal → Machine → κ → σ → Prop) : Prop where
  control {faults todo machine account state} : inv faults todo machine account state →
    machine.smtControl = site.smtControl
  /-- Each reversal is noted, and then it makes its call. -/
  call {faults todo machine account state} (reversal : Reversal) :
    (reversal = .enableSmt → machine.smtDisabled = true) →
    inv faults (reversal :: todo) machine account state →
    watch.Ensures (.note (.reversing reversal) (.ask (reversal.call site) .finish)) account state
      (Watch.Reply reversal.excuses reversal.fault (inv faults todo (reversal.settle machine))
        fun fault => inv (faults ++ [fault]) todo machine)
  settled {faults todo machine account state} : machine.smtDisabled = false →
    inv faults (.enableSmt :: todo) machine account state →
    watch.Ensures (Procedure.leave (.reversing .enableSmt)) account state fun _ =>
      inv faults todo machine

namespace Unwinding

variable {σ κ : Type} {site : Site} {watch : Watch σ κ}
  {inv : List Fault → List Reversal → Machine → κ → σ → Prop} {faults : List Fault}
  {todo : List Reversal} {machine : Machine} {account : κ} {state : σ}
  (unwinding : Unwinding site watch inv)
include unwinding

theorem perform {reversal : Reversal} (h : inv faults (reversal :: todo) machine account state) :
    watch.Ensures (.note (.reversing reversal) (reversal.perform site.tools machine)) account state
      (Watch.Outcome (fun _ => inv faults todo) fun fault => inv (faults ++ [fault]) todo) := by
  cases reversal with
  -- The restore of SMT alone depends on the machine: it makes its call only where that is owed.
  | enableSmt =>
    show watch.Ensures (.note _ (Machine.enableSmt machine)) _ _ _
    cases owing : machine.smtDisabled with
    | false =>
      rw [Machine.enableSmt_settled owing]
      exact unwinding.settled owing h
    | true =>
      obtain ⟨noted, called⟩ := unwinding.call .enableSmt (fun _ => owing) h
      rw [Reversal.call, ← unwinding.control h] at called
      rw [Machine.enableSmt_owing owing]
      refine ⟨noted, Watch.Ensures.bind (called.mono ?_)⟩
      rintro (cause | _) account state h
      · exact h.2 rfl
      · exact h
  | deleteCgroup variant =>
    obtain ⟨noted, called⟩ := unwinding.call (.deleteCgroup variant) nofun h
    have deleted := called.tolerate (fun _ => rfl) Cgroups.tolerateAbsent_error
    refine ⟨noted, deleted.andThen ?_⟩
    rintro (cause | _) account state h
    · exact h.2 rfl
    · exact h
  | stopOptimizer =>
    obtain ⟨noted, called⟩ := unwinding.call .stopOptimizer nofun h
    have stopped := called.tolerate (fun _ => rfl) Optimizer.tolerateStopped_error
    refine ⟨noted, stopped.andThen ?_⟩
    rintro (cause | _) account state h
    · exact h.2 rfl
    · exact h

theorem performAll (todo : List Reversal) (h : inv faults todo machine account state) :
    watch.Ensures (Reversal.performAll site.tools todo machine) account state
      fun out => inv (faults ++ out.1) [] out.2 := by
  induction todo generalizing faults machine account state with
  | nil =>
    rw [← List.append_nil faults] at h
    exact h
  | cons reversal todo ih =>
    show watch.Ensures ((Procedure.note _ (reversal.perform site.tools machine)) >>= _) _ _ _
    refine (unwinding.perform h).andThen ?_
    rintro ⟨fault | _, machine⟩ account state h
    · refine (ih h).andThen ?_
      intro out account state h
      rw [List.append_assoc] at h
      exact h
    · refine (ih h).andThen ?_
      intro out account state h
      exact h

/-- A whole tear-down: what is pending is drained, carried out newest first, and reported. -/
theorem tearDown {runner : Runner} (after : List Fault → Runner → κ → σ → Prop)
    (tools : runner.tools = site.tools)
    (drained : watch.Ensures (Procedure.leave .drained) account state fun _ =>
      inv [] runner.cleanup.pending.reverse runner.machine)
    (vacated : ∀ faults machine account state, inv faults [] machine account state →
      watch.Ensures (Procedure.leave (.occupied none)) account state fun _ =>
        after faults { runner with cleanup := {}, machine, active := none }) :
    watch.Ensures (Runner.tearDown runner) account state fun out account state =>
      ∃ faults, out.1 = verdict faults ∧ after faults out.2 account state := by
  obtain ⟨noted, start⟩ := drained
  have carriedOut := unwinding.performAll _ start
  rw [← tools] at carriedOut
  have unwound : watch.Ensures
      (unwind runner.tools runner.cleanup.pending.reverse runner.machine)
      (watch.enter account (.noted .drained)) state fun out account state =>
        ∃ faults, out.1 = verdict faults ∧ inv faults [] out.2 account state :=
    carriedOut.andThen fun out _ _ h => ⟨out.1, rfl, h⟩
  refine ⟨noted, unwound.andThen ?_⟩
  rintro ⟨result, machine⟩ account state ⟨faults, outcome, h⟩
  obtain ⟨left, done⟩ := vacated _ _ _ _ h
  exact ⟨left, faults, outcome, done⟩

end Unwinding
end CgroupBench
