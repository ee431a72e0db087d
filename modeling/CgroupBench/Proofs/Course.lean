import CgroupBench.Proofs.Delivery
import CgroupBench.Proofs.FaithfulHost

/-!
# The course of a run

A run that meets no fault passes its milestones in a fixed order. The tables below say what it
does between them: which reversal it registers, which call it makes, what it excuses, and what
fault any other error becomes. A condition that is given for each milestone, and shown for
each entry of the tables, holds along the whole course; what is known after a fault is shown
in the same way. The tables say nothing about hosts, and nothing about the order of the three
calls that a run begins with.
-/
namespace CgroupBench

/-- What a run has behind it, in the order of its course. -/
inductive Milestone where
  | begun
  /-- A baseline run has no optimizer beside it. -/
  | alone
  /-- The deletion of the cgroup is registered. -/
  | claimed
  | cleared
  | created
  | limited
  /-- The stop of the optimizer is registered. -/
  | pledged
  | attached
  | occupied
  /-- The restore of SMT is registered. -/
  | staked
  | ready
  | launched
deriving DecidableEq, Repr

namespace Runner

/-- The runner after the call that switches SMT off. -/
def switchedOff (runner : Runner) : Except CallError Unit → Runner
  | .ok () => { runner with machine := { runner.machine with smtDisabled := true } }
  | .error _ => runner

/-- The runners differ in nothing that a reversal depends on. -/
structure Agrees (before after : Runner) : Prop where
  tools : after.tools = before.tools
  cleanup : after.cleanup = before.cleanup
  smtControl : after.machine.smtControl = before.machine.smtControl
  dropCaches : after.machine.dropCaches = before.machine.dropCaches
  smtAtStart : after.machine.smtAtStart = before.machine.smtAtStart
  smtDisabled : after.machine.smtDisabled = before.machine.smtDisabled

theorem Agrees.staged (runner : Runner) (stage : Stage) (stages : List Stage) :
    runner.Agrees { runner with stage, stages } :=
  ⟨rfl, rfl, rfl, rfl, rfl, rfl⟩

theorem Agrees.occupied (runner : Runner) (active : Option Boundary) :
    runner.Agrees { runner with active } :=
  ⟨rfl, rfl, rfl, rfl, rfl, rfl⟩

theorem WorksAt.agrees {site : Site} {before after : Runner} (h : before.WorksAt site)
    (same : before.Agrees after) : after.WorksAt site where
  tools := same.tools.trans h.tools
  smtControl := same.smtControl.trans h.smtControl
  dropCaches := same.dropCaches.trans h.dropCaches

end Runner

/-- The runners differ in nothing but the stages and the counts of one-way changes. -/
structure Runner.Follows (before after : Runner) : Prop extends before.Agrees after where
  policy : after.policy = before.policy

/-- The note only says which stage of the run was entered, or what its hook was given. -/
def Note.isPassing : Note → Bool
  | entered .idle => false
  | entered _ | inspected _ => true
  | _ => false

namespace Milestone

/-- The registrations of a run. -/
inductive Registers (target : Target) : Milestone → Reversal → Milestone → Prop where
  | deletion : Registers target alone (.deleteCgroup target.variant) claimed
  | stop : target.variant.isOptimized = true → Registers target limited .stopOptimizer pledged
  | restore : Registers target occupied .enableSmt staked

/-- What a run may pass without a call. -/
inductive Skips (target : Target) (runner : Runner) : Milestone → Milestone → Prop where
  | optimized : target.variant.isOptimized = true → Skips target runner begun alone
  | untouched : runner.machine.smtAtStart ≠ .on → Skips target runner occupied ready
  | already : runner.machine.smtDisabled = true → Skips target runner staked ready

/-- When the boundary is complete. -/
inductive Completes (target : Target) : Milestone → Prop where
  | bare : target.variant.isOptimized = false → Completes target limited
  | optimized : target.variant.isOptimized = true → Completes target attached

/-- The calls that are made once: what is excused, and what any other error becomes. -/
inductive Calls (site : Site) (target : Target) (benchmark : String) (invocation : Invocation) :
    Milestone → Call → (CallError → Bool) → (CallError → Fault) → Milestone → Prop where
  | sync : Calls site target benchmark invocation begun (.run ["sync"])
      (fun cause => !cause.isUnlaunchable) (.ofSetup "sync") begun
  | dropCaches : Calls site target benchmark invocation begun (.write site.dropCaches "3\n")
      (fun cause => !cause.isUnlaunchable) (.ofSetup "drop page cache") begun
  | swapOff : Calls site target benchmark invocation begun (.run ["swapoff", "-a"])
      (fun cause => !cause.isUnlaunchable) (.ofSetup "disable swap") begun
  | stop : target.variant.isOptimized = false →
      Calls site target benchmark invocation begun (.run site.tools.optimizer.stopArgv)
        CallError.isExit (.ofSetup "ensure optimizer stopped") alone
  | clear : Calls site target benchmark invocation claimed
      (.run (Cgroups.deleteArgv target.variant)) CallError.saysAbsent
      (.ofSetup s!"clear stale {target.variant.label}") cleared
  | start {descriptor : String} : site.tools.optimizer.descriptor = some descriptor →
      target.variant.isOptimized = true →
      Calls site target benchmark invocation pledged
        (.run (site.tools.optimizer.startArgv descriptor)) (fun _ => false)
        (.ofSetup s!"start optimizer for {target.variant.label}") attached
  | launch : Calls site target benchmark invocation ready
      (.workload target.variant.label invocation) (fun _ => false)
      (Runner.launchFault benchmark) launched

/-- The calls that are made again when they fail. -/
inductive Retries (site : Site) (target : Target) :
    Milestone → Call → String → Milestone → Prop where
  | create : Retries site target cleared (.run (Cgroups.createArgv target.variant))
      s!"create {target.variant.label}" created
  | limit : Retries site target created
      (.write (site.tools.cgroups.limitPath target.variant) s!"{target.memoryLimit.toNat}\n")
      s!"limit {target.variant.label}" limited

end Milestone

/-- The boundary of a run whose preparation met no fault. -/
def Target.boundary (target : Target) : Boundary :=
  ⟨target.variant, target.memoryLimit, target.variant.isOptimized⟩

/-- The fault of an optimized run that was given no optimizer configuration. -/
def Optimizer.undescribed (variant : Variant) : Fault :=
  .configuration s!"{variant.label} requests the optimizer but no optimizer config was given"

section

variable {σ κ : Type}

section

variable {watch : Watch σ κ} {fresh synced flushed settled : Runner → κ → σ → Prop}
  {broken : Fault → Runner → κ → σ → Prop}

/-- What holds after the first call may depend on whether it succeeded. -/
theorem Runner.delivers_dropPageCache
    (sync : ∀ runner account state, fresh runner account state →
      watch.Ensures (.ask (.run ["sync"]) .finish) account state fun reply account state =>
        Watch.Reply (fun cause => !cause.isUnlaunchable) (.ofSetup "sync")
          (match reply with
            | .ok _ => synced runner
            | .error _ => flushed runner)
          (fun fault => broken fault runner) reply account state)
    (dropCaches : ∀ runner account state, synced runner account state →
      watch.Ensures (.ask (.write runner.machine.dropCaches "3\n") .finish) account state
        (Watch.Reply (fun cause => !cause.isUnlaunchable) (.ofSetup "drop page cache")
          (flushed runner) fun fault => broken fault runner))
    (follows : ∀ {runner runner' account state}, runner.Follows runner' →
      flushed runner account state → flushed runner' account state) :
    watch.Delivers fresh (Step.bestEffort (Runner.onMachine Machine.dropPageCache))
      (fun _ => flushed) broken := by
  refine .bestEffort (.onPart (fun _ => rfl) fun runner => ?_)
  have syncs : watch.Delivers (fun machine => fresh { runner with machine })
      (Step.setup "sync" (Procedure.run ["sync"]))
      (fun _ machine => synced { runner with machine })
      (Watch.Tolerated (fun machine => flushed { runner with machine })
        fun fault machine => broken fault { runner with machine }) := by
    intro machine account state h
    refine (sync _ _ _ h).andThen ?_
    rintro (cause | output) account state done
    · exact .of_reply done
    · exact done
  refine syncs.bind fun _ machine account state h => ?_
  show watch.Ensures
    ((Step.setup _ (Procedure.write machine.dropCaches "3\n") >>= fun _ => Step.modify _) machine)
    _ _ _
  refine Watch.Ensures.bind (Watch.Ensures.bind ((dropCaches _ _ _ h).mono ?_))
  rintro (cause | _) account state done
  · exact .of_reply done
  · refine follows ?_ done
    exact ⟨⟨rfl, rfl, rfl, rfl, rfl, rfl⟩, rfl⟩

theorem Runner.delivers_disableSwap
    (swapOff : ∀ runner account state, flushed runner account state →
      watch.Ensures (.ask (.run ["swapoff", "-a"]) .finish) account state
        (Watch.Reply (fun cause => !cause.isUnlaunchable) (.ofSetup "disable swap")
          (settled runner) fun fault => broken fault runner))
    (follows : ∀ {runner runner' account state}, runner.Follows runner' →
      settled runner account state → settled runner' account state) :
    watch.Delivers flushed (Step.bestEffort (Runner.onMachine Machine.disableSwap))
      (fun _ => settled) broken := by
  refine .bestEffort (.onPart (fun _ => rfl) fun runner => ?_)
  refine .bind (.tolerated fun machine account state h => swapOff _ _ _ h) fun _ => ?_
  intro machine account state h
  refine follows ?_ h
  exact ⟨⟨rfl, rfl, rfl, rfl, rfl, rfl⟩, rfl⟩

end

/-- A condition for each milestone, and one for faults, that the tables keep. -/
structure Course (site : Site) (watch : Watch σ κ) (workload : Workload) (target : Target)
    (invocation : Invocation) (inv : Milestone → Runner → κ → σ → Prop)
    (broken : Fault → Runner → κ → σ → Prop) : Prop where
  worksAt {at' runner account state} : inv at' runner account state → runner.WorksAt site
  follows {at' runner runner' account state} : runner.Follows runner' →
    inv at' runner account state → inv at' runner' account state
  passing {note at' runner account state} : note.isPassing = true →
    inv at' runner account state →
    watch.Ensures (Procedure.leave note) account state fun _ => inv at' runner
  skip {here there runner account state} : Milestone.Skips target runner here there →
    inv here runner account state → inv there runner account state
  registered {here reversal there runner account state} :
    Milestone.Registers target here reversal there →
    (reversal = .enableSmt → runner.machine.smtAtStart = .on) →
    inv here runner account state →
    watch.Ensures (Procedure.leave (.registered reversal)) account state fun _ =>
      inv there { runner with cleanup := runner.cleanup.register reversal }
  call {here call excused wrap there runner account state} :
    Milestone.Calls site target workload.name invocation here call excused wrap there →
    inv here runner account state →
    watch.Ensures (.ask call .finish) account state
      (Watch.Reply excused wrap (inv there runner) fun fault => broken fault runner)
  retry {here call what there runner account state} :
    Milestone.Retries site target here call what there → inv here runner account state →
    watch.Ensures (.ask call .finish) account state
      (Watch.Retry (.ofSetup what) (inv here runner) (inv there runner) fun fault =>
        broken fault runner)
  undescribed {runner account state} : target.variant.isOptimized = true →
    site.tools.optimizer.descriptor = none → inv .pledged runner account state →
    broken (Optimizer.undescribed target.variant) runner account state
  occupied {here runner account state} : Milestone.Completes target here →
    inv here runner account state →
    watch.Ensures (Procedure.leave (.occupied (some target.boundary))) account state fun _ =>
      inv .occupied { runner with active := some target.boundary }
  /-- The boundary is occupied even where the optimizer could not be started for it. -/
  abandoned {boundary fault runner account state} : broken fault runner account state →
    watch.Ensures (Procedure.leave (.occupied (some boundary))) account state fun _ =>
      broken fault { runner with active := some boundary }
  smtOff {runner account state} : runner.machine.smtDisabled = false →
    inv .staked runner account state →
    watch.Ensures (Procedure.write site.smtControl "off\n") account state fun reply =>
      Watch.Reply (fun cause => !cause.isUnlaunchable) (.ofSetup "disable SMT")
        (inv .ready (runner.switchedOff reply)) (fun fault => broken fault runner) reply
  faulty {output elapsed fault runner account state} :
    workload.inspect output elapsed = .faulty fault → inv .launched runner account state →
    broken fault runner account state

/-- A course without the three calls that a run begins with. What is made again when it fails is
one step here, so that its tries may be counted. -/
structure Passage (site : Site) (watch : Watch σ κ) (workload : Workload) (target : Target)
    (invocation : Invocation) (inv : Milestone → Runner → κ → σ → Prop)
    (broken : Fault → Runner → κ → σ → Prop) : Prop where
  worksAt {at' runner account state} : inv at' runner account state → runner.WorksAt site
  follows {at' runner runner' account state} : runner.Follows runner' →
    inv at' runner account state → inv at' runner' account state
  passing {note at' runner account state} : note.isPassing = true →
    inv at' runner account state →
    watch.Ensures (Procedure.leave note) account state fun _ => inv at' runner
  skip {here there runner account state} : Milestone.Skips target runner here there →
    inv here runner account state → inv there runner account state
  registered {here reversal there runner account state} :
    Milestone.Registers target here reversal there →
    (reversal = .enableSmt → runner.machine.smtAtStart = .on) →
    inv here runner account state →
    watch.Ensures (Procedure.leave (.registered reversal)) account state fun _ =>
      inv there { runner with cleanup := runner.cleanup.register reversal }
  call {here call excused wrap there runner account state} :
    Milestone.Calls site target workload.name invocation here call excused wrap there →
    there ≠ .begun → inv here runner account state →
    watch.Ensures (.ask call .finish) account state
      (Watch.Reply excused wrap (inv there runner) fun fault => broken fault runner)
  retried {here call what there runner account state} :
    Milestone.Retries site target here call what there → inv here runner account state →
    watch.Ensures (Cgroups.attempt (.ask call .finish) site.tools.cgroups.retries) account state
      (Watch.Reply (fun _ => false) (.ofSetup what) (inv there runner) fun fault =>
        broken fault runner)
  undescribed {runner account state} : target.variant.isOptimized = true →
    site.tools.optimizer.descriptor = none → inv .pledged runner account state →
    broken (Optimizer.undescribed target.variant) runner account state
  occupied {here runner account state} : Milestone.Completes target here →
    inv here runner account state →
    watch.Ensures (Procedure.leave (.occupied (some target.boundary))) account state fun _ =>
      inv .occupied { runner with active := some target.boundary }
  abandoned {boundary fault runner account state} : broken fault runner account state →
    watch.Ensures (Procedure.leave (.occupied (some boundary))) account state fun _ =>
      broken fault { runner with active := some boundary }
  smtOff {runner account state} : runner.machine.smtDisabled = false →
    inv .staked runner account state →
    watch.Ensures (Procedure.write site.smtControl "off\n") account state fun reply =>
      Watch.Reply (fun cause => !cause.isUnlaunchable) (.ofSetup "disable SMT")
        (inv .ready (runner.switchedOff reply)) (fun fault => broken fault runner) reply
  faulty {output elapsed fault runner account state} :
    workload.inspect output elapsed = .faulty fault → inv .launched runner account state →
    broken fault runner account state

end

namespace Passage

variable {σ κ : Type} {site : Site} {watch : Watch σ κ} {workload : Workload} {target : Target}
  {invocation : Invocation} {inv : Milestone → Runner → κ → σ → Prop}
  {broken : Fault → Runner → κ → σ → Prop}
  (passage : Passage site watch workload target invocation inv broken)
include passage

theorem enter {at' : Milestone} (stage : Stage) (busy : stage ≠ .idle) :
    watch.Delivers (inv at') (Runner.enter stage) (fun _ => inv at') broken := by
  have passing : (Note.entered stage).isPassing = true := by
    cases stage with
    | idle => exact absurd rfl busy
    | _ => rfl
  intro runner account state h
  obtain ⟨seen, h⟩ := passage.passing passing h
  exact ⟨seen, passage.follows ⟨.staged _ _ _, rfl⟩ h⟩

theorem ensureStopped (baseline : target.variant.isOptimized = false) :
    watch.Delivers (inv .begun) site.tools.optimizer.ensureStopped (fun _ => inv .alone)
      broken := by
  refine .lift (fun _ => rfl) fun runner account state h => ?_
  have stopped := passage.call (.stop baseline) nofun h
  exact stopped.tolerate (fun _ => rfl) Optimizer.tolerateStopped_error

theorem clear :
    watch.Delivers (inv .claimed)
      (Step.setup s!"clear stale {target.variant.label}" (Cgroups.delete target.variant))
      (fun _ => inv .cleared) broken := by
  refine .lift (fun _ => rfl) fun runner account state h => ?_
  exact (passage.call .clear nofun h).tolerate (fun _ => rfl) Cgroups.tolerateAbsent_error

theorem retry {here there : Milestone} {call : Call} {what : String}
    (retries : Milestone.Retries site target here call what there) :
    watch.Delivers (inv here)
      (Step.setup what (Cgroups.attempt (.ask call .finish) site.tools.cgroups.retries))
      (fun _ => inv there) broken := by
  refine .lift (fun _ => rfl) fun runner account state h => ?_
  exact passage.retried retries h

theorem create :
    watch.Delivers (inv .claimed) (site.tools.cgroups.create target.variant target.memoryLimit)
      (fun boundary runner account state =>
        boundary = ⟨target.variant, target.memoryLimit, false⟩ ∧ inv .limited runner account state)
      broken := by
  refine passage.clear.bind fun _ => ?_
  refine (passage.retry .create).bind fun _ => ?_
  refine (passage.retry .limit).bind fun _ => ?_
  intro runner account state h
  exact ⟨rfl, h⟩

/-- The boundary is told that the optimizer is there only once it was started. -/
theorem attach (optimized : target.variant.isOptimized = true) {runner : Runner} {account : κ}
    {state : σ} (h : inv .pledged runner account state) :
    watch.Ensures
      (site.tools.optimizer.attach ⟨target.variant, target.memoryLimit, false⟩) account state
      (Watch.Outcome (fun _ boundary account state =>
        boundary = ⟨target.variant, target.memoryLimit, true⟩ ∧ inv .attached runner account state)
        fun fault _ account state => broken fault runner account state) := by
  unfold Optimizer.attach
  cases described : site.tools.optimizer.descriptor with
  | none => exact passage.undescribed optimized described h
  | some descriptor =>
    show watch.Ensures ((Step.setup _ (Procedure.run _) >>= _ : Step Boundary Unit) _) _ _ _
    refine Watch.Ensures.bind ((passage.call (.start described optimized) nofun h).andThen ?_)
    rintro (cause | output) account state h
    · exact h.2 rfl
    · exact ⟨rfl, h⟩

theorem register {here there : Milestone} {reversal : Reversal}
    (registers : Milestone.Registers target here reversal there) :
    watch.Delivers
      (fun runner account state => inv here runner account state ∧
        (reversal = .enableSmt → runner.machine.smtAtStart = .on))
      (Runner.register reversal) (fun _ => inv there) broken := by
  rintro runner account state ⟨h, on⟩
  exact passage.registered registers on h

theorem occupy {here : Milestone} (complete : Milestone.Completes target here) :
    watch.Delivers (inv here) (Runner.occupy (some target.boundary)) (fun _ => inv .occupied)
      broken := by
  intro runner account state h
  exact passage.occupied complete h

theorem setUp :
    watch.Delivers (inv .alone) (Runner.setUp target) (fun _ => inv .occupied) broken := by
  intro runner account state h
  unfold Runner.setUp
  show watch.Ensures ((Runner.register _ >>= _) runner) _ _ _
  rw [(passage.worksAt h).tools]
  refine Watch.Delivers.bind (passage.register .deletion) (fun _ => passage.create.bind ?_)
    runner account state ⟨h, nofun⟩
  rintro boundary runner account state ⟨rfl, h⟩
  cases optimized : target.variant.isOptimized with
  | false =>
    rw [if_neg nofun, ← optimized]
    exact passage.occupy (.bare optimized) _ _ _ h
  | true =>
    rw [if_pos rfl]
    refine Watch.Delivers.bind (passage.register (.stop optimized)) (fun _ => ?_) _ _ _ ⟨h, nofun⟩
    intro runner account state h
    refine Watch.Ensures.bind ((passage.attach optimized h).andThen ?_)
    rintro ⟨fault | _, boundary⟩ account state h
    · exact passage.abandoned h
    -- What the optimizer was told is the boundary of the target once the flag is read back.
    · obtain ⟨rfl, h⟩ := h
      rw [← optimized]
      exact passage.occupy (.optimized optimized) _ _ _ h

/-- SMT may be switched off where it was on, once its restore is registered. -/
theorem quiesce : watch.Delivers (inv .occupied) Runner.quiesce (fun _ => inv .ready) broken := by
  have switchOff : watch.Delivers
      (fun runner account state => inv .staked runner account state ∧
        runner.machine.smtAtStart = .on)
      (Step.bestEffort (Runner.onMachine Machine.disableSmt)) (fun _ => inv .ready) broken := by
    refine .bestEffort (.onPart (fun _ => rfl) fun runner => ?_)
    rintro machine account state ⟨h, on⟩
    show watch.Ensures
      ((if machine.smtAtStart ≠ .on then _ else _ : Step Machine Bool) machine) _ _ _
    rw [if_neg (not_not_intro on)]
    by_cases already : machine.smtDisabled = true
    · rw [if_pos already]
      exact passage.skip (.already already) h
    rw [if_neg already]
    have write := passage.smtOff (Bool.eq_false_iff.mpr already) h
    rw [← (passage.worksAt h).smtControl] at write
    refine Watch.Ensures.bind (Watch.Ensures.bind (write.mono ?_))
    rintro (cause | _) account state h
    · exact .of_reply h
    · exact h
  intro runner account state h
  show watch.Ensures
    ((if runner.machine.smtAtStart = .on then _ else _ : Step Runner Unit) runner) _ _ _
  by_cases on : runner.machine.smtAtStart = .on
  · rw [if_pos on]
    obtain ⟨seen, staked⟩ := passage.registered .restore (fun _ => on) h
    exact ⟨seen, switchOff _ _ _ ⟨staked, on⟩⟩
  · rw [if_neg on]
    exact passage.skip (.untouched on) h

/-- The first two steps, which make the calls that a run begins with, are shown elsewhere. -/
theorem makeReady {fresh flushed : Runner → κ → σ → Prop}
    (dropPageCache : watch.Delivers fresh
      (Step.bestEffort (Runner.onMachine Machine.dropPageCache)) (fun _ => flushed) broken)
    (disableSwap : watch.Delivers flushed
      (Step.bestEffort (Runner.onMachine Machine.disableSwap)) (fun _ => inv .begun) broken) :
    watch.Delivers fresh (Runner.makeReady target) (fun _ => inv .ready) broken := by
  refine dropPageCache.bind fun _ => ?_
  refine disableSwap.bind fun _ => ?_
  have rest : watch.Delivers (inv .alone)
      (do
        Runner.setUp target
        Runner.quiesce) (fun _ => inv .ready) broken :=
    passage.setUp.bind fun _ => passage.quiesce
  intro runner account state h
  show watch.Ensures
    ((if ¬ target.variant.isOptimized = true then runner.tools.optimizer.ensureStopped >>= _
      else _ : Step Runner _) runner) _ _ _
  rw [(passage.worksAt h).tools]
  cases optimized : target.variant.isOptimized with
  | false =>
    rw [if_pos nofun]
    exact Watch.Delivers.bind (passage.ensureStopped optimized) (fun _ => rest) runner account state
      h
  | true =>
    rw [if_neg (not_not_intro rfl)]
    exact rest runner account state (passage.skip (.optimized optimized) h)

/-- A measurement is of the record that was run; there is none if the workload broke down. -/
theorem measure (record : Record) :
    watch.Delivers (inv .ready) (Runner.measure workload record target.variant invocation)
      (fun measured runner account state =>
        (∀ measurement, measured = some measurement →
          measurement.record = record ∧ inv .launched runner account state) ∧
        (measured = none → workload.Panics ∧ inv .launched runner account state)) broken := by
  have launch : watch.Delivers (inv .ready)
      (Step.lift (Runner.launchFault workload.name)
        (Procedure.workload target.variant.label invocation)) (fun _ => inv .launched) broken :=
    .lift (fun _ => rfl) fun runner account state h => passage.call .launch nofun h
  refine (passage.enter .running nofun).bind fun _ => ?_
  refine launch.bind fun timed => ?_
  refine (passage.enter .capturing nofun).bind fun _ => ?_
  have inspect : watch.Delivers (inv .launched) (Step.leave (.inspected timed.output))
      (fun _ => inv .launched) broken :=
    fun runner account state h => passage.passing rfl h
  refine inspect.bind fun _ => ?_
  intro runner account state h
  cases seen : workload.inspect timed.output timed.elapsed with
  | measured metrics => exact ⟨fun _ some => ⟨Option.some.inj some ▸ rfl, h⟩, nofun⟩
  | faulty fault => exact passage.faulty seen h
  | panicked => exact ⟨nofun, fun _ => ⟨.inr ⟨_, _, seen⟩, h⟩⟩

end Passage

namespace Course

variable {σ κ : Type} {site : Site} {watch : Watch σ κ} {workload : Workload} {target : Target}
  {invocation : Invocation} {inv : Milestone → Runner → κ → σ → Prop}
  {broken : Fault → Runner → κ → σ → Prop}
  (course : Course site watch workload target invocation inv broken)
include course

theorem passage : Passage site watch workload target invocation inv broken where
  worksAt := course.worksAt
  follows := course.follows
  passing := course.passing
  skip := course.skip
  registered := course.registered
  call calls _ := course.call calls
  retried retries h := .attempt (fun _ _ h => course.retry retries h) _ h
  undescribed := course.undescribed
  occupied := course.occupied
  abandoned := course.abandoned
  smtOff := course.smtOff
  faulty := course.faulty

theorem dropPageCache :
    watch.Delivers (inv .begun) (Step.bestEffort (Runner.onMachine Machine.dropPageCache))
      (fun _ => inv .begun) broken := by
  have write : ∀ runner account state, inv .begun runner account state →
      watch.Ensures (.ask (.write runner.machine.dropCaches "3\n") .finish) account state
        (Watch.Reply (fun cause => !cause.isUnlaunchable) (.ofSetup "drop page cache")
          (inv .begun runner) fun fault => broken fault runner) := by
    intro runner account state h
    rw [(course.worksAt h).dropCaches]
    exact course.call .dropCaches h
  refine Runner.delivers_dropPageCache (fun runner account state h => ?_) write course.follows
  refine (course.call .sync h).mono ?_
  rintro (cause | output) account state h <;> exact h

theorem disableSwap :
    watch.Delivers (inv .begun) (Step.bestEffort (Runner.onMachine Machine.disableSwap))
      (fun _ => inv .begun) broken :=
  Runner.delivers_disableSwap (fun _ _ _ h => course.call .swapOff h) course.follows

theorem makeReady :
    watch.Delivers (inv .begun) (Runner.makeReady target) (fun _ => inv .ready) broken :=
  course.passage.makeReady course.dropPageCache course.disableSwap

end Course

end CgroupBench
