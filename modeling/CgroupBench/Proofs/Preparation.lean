import CgroupBench.Proofs.Conduct

/-!
# Invariants of a preparation

An invariant of a run that has not begun to unwind is shown for the primitive steps only: the
notes, the changes of a runner that no reversal depends on, and the calls, each with the
reversals that are registered by then. Such an invariant is a condition for each milestone of
a course, so a whole preparation keeps it, and the workload after it, wherever a fault ends it.
-/
namespace CgroupBench

/-- The calls of a run before its unwinding, each with reversals that are registered before. -/
inductive Site.Issues (site : Site) : Call → List Reversal → Prop where
  | sync {needed} : site.Issues (.run ["sync"]) needed
  | dropCaches {needed} : site.Issues (.write site.dropCaches "3\n") needed
  | swapOff {needed} : site.Issues (.run ["swapoff", "-a"]) needed
  | stop {needed} : site.Issues (.run site.tools.optimizer.stopArgv) needed
  | clear {variant needed} : .deleteCgroup variant ∈ needed →
    site.Issues (.run (Cgroups.deleteArgv variant)) needed
  | create {variant needed} : .deleteCgroup variant ∈ needed →
    site.Issues (.run (Cgroups.createArgv variant)) needed
  | limit {variant needed} (memoryLimit : UInt64) : .deleteCgroup variant ∈ needed →
    site.Issues (.write (site.tools.cgroups.limitPath variant) s!"{memoryLimit.toNat}\n") needed
  | start {needed} (descriptor : String) : .stopOptimizer ∈ needed →
    site.Issues (.run (site.tools.optimizer.startArgv descriptor)) needed
  | workload {needed} (scope : String) (invocation : Invocation) :
    site.Issues (.workload scope invocation) needed

/-- The note is about reversals, and so about what is pending. -/
def Note.isEntry : Note → Bool
  | registered _ | drained | reversing _ => true
  | _ => false

theorem Note.apply_aside {note : Note} (aside : note.isEntry = false) (cleanup : Cleanup) :
    note.apply cleanup = cleanup := by
  cases note <;> first | rfl | cases aside

/-- Registering adds one reversal to those known to be pending. -/
theorem Cleanup.mem_register {cleanup : Cleanup} {needed : List Reversal} {reversal : Reversal}
    (listed : ∀ other ∈ needed, other ∈ cleanup.pending) :
    ∀ other ∈ reversal :: needed, other ∈ (cleanup.register reversal).pending := by
  intro other mem
  rcases List.mem_cons.mp mem with rfl | mem
  · exact List.mem_append_right _ (.head _)
  · exact List.mem_append_left _ (listed _ mem)

section

variable {σ κ : Type} (site : Site) (watch : Watch σ κ)

/-- The primitive steps keep an invariant, which is told what is registered. -/
structure Upholds (inv : List Reversal → Runner → κ → σ → Prop) : Prop where
  worksAt {needed runner account state} : inv needed runner account state → runner.WorksAt site
  relax {needed runner account state} : inv needed runner account state →
    inv [] runner account state
  agrees {needed runner runner' account state} : runner.Agrees runner' →
    inv needed runner account state → inv needed runner' account state
  aside {note needed runner account state} : note.isEntry = false →
    inv needed runner account state →
    watch.Ensures (Procedure.leave note) account state fun _ => inv needed runner
  register {needed reversal runner account state} : inv needed runner account state →
    (reversal = .enableSmt → runner.machine.smtAtStart = .on) →
    watch.Ensures (Runner.register reversal runner) account state fun out =>
      inv (reversal :: needed) out.2
  call {call needed runner account state} : site.Issues call needed →
    inv needed runner account state →
    watch.Ensures (.ask call .finish) account state fun _ => inv needed runner
  smtOff {runner account state} : runner.machine.smtDisabled = false →
    inv [.enableSmt] runner account state →
    watch.Ensures (Procedure.write site.smtControl "off\n") account state fun reply =>
      inv [.enableSmt] (runner.switchedOff reply)

end

namespace Milestone

variable {site : Site} {target : Target} {benchmark what : String} {invocation : Invocation}
  {here there : Milestone} {call : Call} {reversal : Reversal}

/-- What a run of this variant has registered for the calls it makes next. -/
def needed (variant : Variant) : Milestone → List Reversal
  | claimed | cleared | created | limited => [.deleteCgroup variant]
  | pledged | attached => [.stopOptimizer, .deleteCgroup variant]
  | staked => [.enableSmt]
  | begun | alone | occupied | ready | launched => []

theorem Registers.needed (registers : Registers target here reversal there) :
    there.needed target.variant = reversal :: here.needed target.variant := by
  cases registers <;> rfl

theorem Skips.needed {runner : Runner} (skips : Skips target runner here there) :
    there.needed target.variant = [] := by
  cases skips <;> rfl

theorem Calls.issues {excused : CallError → Bool} {wrap : CallError → Fault}
    (calls : Calls site target benchmark invocation here call excused wrap there) :
    site.Issues call (here.needed target.variant) ∧
      there.needed target.variant = here.needed target.variant := by
  cases calls with
  | sync => exact ⟨.sync, rfl⟩
  | dropCaches => exact ⟨.dropCaches, rfl⟩
  | swapOff => exact ⟨.swapOff, rfl⟩
  | stop => exact ⟨.stop, rfl⟩
  | clear => exact ⟨.clear (.head _), rfl⟩
  | start => exact ⟨.start _ (.head _), rfl⟩
  | launch => exact ⟨.workload _ _, rfl⟩

theorem Retries.issues (retries : Retries site target here call what there) :
    site.Issues call (here.needed target.variant) ∧
      there.needed target.variant = here.needed target.variant := by
  cases retries with
  | create => exact ⟨.create (.head _), rfl⟩
  | limit => exact ⟨.limit _ (.head _), rfl⟩

end Milestone

theorem Note.isEntry_of_isPassing {note : Note} (passing : note.isPassing = true) :
    note.isEntry = false := by
  cases note <;> first | rfl | cases passing

namespace Upholds

variable {σ κ : Type} {site : Site} {watch : Watch σ κ}
  {inv : List Reversal → Runner → κ → σ → Prop} {needed : List Reversal}
  {runner : Runner} {account : κ} {state : σ} (upholds : Upholds site watch inv)
include upholds

theorem enter (stage : Stage) (h : inv needed runner account state) :
    watch.Ensures (Runner.enter stage runner) account state fun out => inv needed out.2 := by
  have noted : watch.Ensures (Procedure.leave (.entered stage)) account state
      fun _ => inv needed runner := upholds.aside rfl h
  exact ⟨noted.1, upholds.agrees (.staged _ _ _) noted.2⟩

/-- What is known after a fault is what is known while nothing is needed. -/
theorem course (workload : Workload) (target : Target) (invocation : Invocation) :
    Course site watch workload target invocation
      (fun at' => inv (at'.needed target.variant)) (fun _ => inv []) where
  worksAt h := upholds.worksAt h
  follows same h := upholds.agrees same.toAgrees h
  passing passing h := upholds.aside (Note.isEntry_of_isPassing passing) h
  skip skips h := by
    rw [skips.needed]
    exact upholds.relax h
  registered registers on h := by
    rw [registers.needed]
    exact upholds.register h on
  call calls h := by
    obtain ⟨issued, same⟩ := calls.issues
    rw [same]
    exact (upholds.call issued h).mono fun _ _ _ h => .either h fun _ => upholds.relax h
  retry retries h := by
    obtain ⟨issued, same⟩ := retries.issues
    rw [same]
    refine (upholds.call issued h).mono ?_
    rintro (cause | _) account state h
    · exact ⟨fun _ => h, upholds.relax h⟩
    · exact h
  undescribed _ _ h := upholds.relax h
  occupied _ h :=
    (upholds.aside rfl (upholds.relax h)).mono fun _ _ _ => upholds.agrees (.occupied _ _)
  abandoned h := (upholds.aside rfl h).mono fun _ _ _ => upholds.agrees (.occupied _ _)
  smtOff settled h := by
    refine (upholds.smtOff settled h).mono ?_
    rintro (cause | _) account state h
    · exact ⟨fun _ => upholds.relax h, fun _ => upholds.relax h⟩
    · exact upholds.relax h
  faulty _ h := upholds.relax h

theorem conduct (workload : Workload) (record : Record) :
    Conduct site watch workload record (inv []) (inv [])
      (fun target at' => inv (at'.needed target.variant)) (fun _ => inv []) where
  begun runner account state h := by
    have noted : watch.Ensures (Procedure.leave (.entered .idle)) account state
        fun _ => inv [] runner := upholds.aside rfl h
    have begun : watch.Ensures (Runner.enter .preparing _) _ state fun out => inv [] out.2 :=
      upholds.enter .preparing (upholds.agrees (.staged runner .idle [.idle]) noted.2)
    exact ⟨noted.1, begun⟩
  refused _ h := h
  start h := h
  course _ _ := upholds.course workload _ _

end Upholds
end CgroupBench
