import CgroupBench.Proofs.LateRefusal

/-!
# Optimized runs without a description

A run finds its record at fault, or is refused a command for it, before it makes a call. That
nothing describes the optimizer it finds only where the optimizer would be started, when the cgroup
has been set up. This is the one way in which the configuration is blamed after the first call,
and it shows unless the unwinding fails. The host is arbitrary.
-/
namespace CgroupBench

variable {σ : Type}

/-- The record asks for an optimizer that nothing describes. -/
structure Record.Lacks (record : Record) (optimizer : Optimizer) (target : Target) : Prop where
  resolved : Target.ofRecord record = .ok target
  optimized : target.variant.isOptimized = true
  undescribed : optimizer.descriptor = none

namespace Event

/-- The stop of the optimizer is registered. -/
def pledges : Event → Bool
  | noted (.registered .stopOptimizer) => true
  | _ => false

theorem any_pledges {history : List Event} :
    history.any pledges = true ↔ .noted (.registered .stopOptimizer) ∈ history := by
  rw [List.any_eq_true]
  constructor
  · rintro ⟨event, mem, pledged⟩
    match event with
    | noted (.registered .stopOptimizer) => exact mem
  · exact fun mem => ⟨_, mem, rfl⟩

theorem any_pledges_concat (history : List Event) (event : Event) :
    (history ++ [event]).any pledges = (history.any pledges || event.pledges) := by
  rw [List.any_append, List.any_cons, List.any_nil, Bool.or_false]

theorem pledges_of_isPassing {note : Note} (passing : note.isPassing = true) :
    (noted note).pledges = false := by
  cases note <;> first | rfl | cases passing

end Event

namespace Milestone

/-- Whether the stop of the optimizer is registered at the milestones that a run without a
description can reach. -/
def pledged? : Milestone → Option Bool
  | begun | alone | claimed | cleared | created | limited => some false
  | pledged => some true
  | attached | occupied | staked | ready | launched => none

variable {site : Site} {target : Target} {benchmark what : String} {invocation : Invocation}
  {here there : Milestone} {call : Call} {mark : Bool}

theorem Calls.pledged? {excused : CallError → Bool} {wrap : CallError → Fault}
    (calls : Calls site target benchmark invocation here call excused wrap there)
    (undescribed : site.tools.optimizer.descriptor = none) (h : here.pledged? = some mark) :
    there.pledged? = some mark ∧ mark = false := by
  cases calls with
  | start described _ => cases undescribed.symm.trans described
  | launch => cases h
  | _ => exact ⟨h, (Option.some.inj h).symm⟩

theorem Retries.pledged? (retries : Retries site target here call what there)
    (h : here.pledged? = some mark) : there.pledged? = some mark ∧ mark = false := by
  cases retries <;> exact ⟨h, (Option.some.inj h).symm⟩

theorem Skips.pledged? {runner : Runner} (skips : Skips target runner here there)
    (h : here.pledged? = some mark) : there.pledged? = some mark := by
  cases skips with
  | optimized => exact h
  | untouched | already => cases h

theorem Registers.pledged? {reversal : Reversal} (registers : Registers target here reversal there)
    (h : here.pledged? = some mark) :
    there.pledged? = some (mark || (Event.noted (.registered reversal)).pledges) := by
  cases registers with
  | deletion => exact h.trans (congrArg some (Bool.or_false mark).symm)
  | stop => exact congrArg some (Bool.or_true mark).symm
  | restore => cases h

end Milestone

section

variable {site : Site} {workload : Workload} {record : Record} {fault : Fault} {runner : Runner}
  {history : List Event}

/-- Nothing was asked of the host, and nothing is to be undone. -/
structure Untouched (site : Site) (runner : Runner) (history : List Event) : Prop
    extends runner.WorksAt site where
  idle : runner.cleanup.pending = []
  quiet : Event.calls history = []
  unpledged : history.any Event.pledges = false

/-- A run without a description has registered the stop of the optimizer only where it ends. -/
structure Approaches (site : Site) (record : Record) (at' : Milestone) (runner : Runner)
    (history : List Event) : Prop extends runner.WorksAt site where
  marked {target} : record.Lacks site.tools.optimizer target →
    at'.pledged? = some (history.any Event.pledges)

/-- Where the fault of an attempt comes from. -/
inductive Origin (site : Site) (workload : Workload) (record : Record) (fault : Fault)
    (runner : Runner) (history : List Event) : Prop where
  | refused : Target.ofRecord record = .error fault ∨ workload.command record = .error fault →
    runner.cleanup.pending = [] → Event.calls history = [] → Origin ..
  | undescribed {target invocation} : record.Lacks site.tools.optimizer target →
    workload.command record = .ok invocation → fault = Optimizer.undescribed target.variant →
    history.any Event.pledges = true → Origin ..
  | elsewhere : fault.isConfiguration = false →
    (∀ target, record.Lacks site.tools.optimizer target → history.any Event.pledges = false) →
    Origin ..

theorem Approaches.snoc {here there : Milestone} {runner' : Runner} {event : Event}
    (h : Approaches site record here runner history) (works : runner'.WorksAt site)
    (leads : ∀ {target}, record.Lacks site.tools.optimizer target →
      ∀ {mark}, here.pledged? = some mark → there.pledged? = some (mark || event.pledges)) :
    Approaches site record there runner' (history ++ [event]) where
  toWorksAt := works
  marked lacks := by
    rw [Event.any_pledges_concat]
    exact leads lacks (h.marked lacks)

/-- The milestones around a call, of which a run without a description reaches the second with the
first, and neither with the stop registered. -/
def Early (site : Site) (record : Record) (here there : Milestone) : Prop :=
  ∀ {target}, record.Lacks site.tools.optimizer target → ∀ {mark}, here.pledged? = some mark →
    there.pledged? = some mark ∧ mark = false

theorem Approaches.called {here there : Milestone} {runner' : Runner} {call : Call}
    (h : Approaches site record here runner history) (works : runner'.WorksAt site)
    (early : Early site record here there) (reply : call.Reply) :
    Approaches site record there runner' (history ++ [.called call reply]) :=
  h.snoc works fun lacks mark same => by
    rw [(early lacks same).1]
    exact congrArg some (Bool.or_false mark).symm

/-- No call that fails is blamed on the configuration, and none is made with the stop registered. -/
theorem Approaches.failed {here there : Milestone} {call : Call} {reply : call.Reply}
    (h : Approaches site record here runner history) (blameless : fault.isConfiguration = false)
    (early : Early site record here there) :
    Origin site workload record fault runner (history ++ [.called call reply]) :=
  .elsewhere blameless fun _ lacks => by
    rw [Event.any_pledges_concat, (early lacks (h.marked lacks)).2]
    rfl

/-- What is noted after a fault is no registration. -/
theorem Origin.noted {note : Note} {runner' : Runner}
    (h : Origin site workload record fault runner history)
    (cleanup : runner'.cleanup = runner.cleanup) (other : (Event.noted note).pledges = false) :
    Origin site workload record fault runner' (history ++ [.noted note]) := by
  have same : (history ++ [Event.noted note]).any Event.pledges = history.any Event.pledges := by
    rw [Event.any_pledges_concat, other, Bool.or_false]
  cases h with
  | refused why idle quiet =>
    refine .refused why (by rw [cleanup, idle]) ?_
    rw [Event.calls_append, quiet]
    rfl
  | undescribed lacks assigned named pledged =>
    exact .undescribed lacks assigned named (same.trans pledged)
  | elsewhere blameless early =>
    exact .elsewhere blameless fun target lacks => same.trans (early target lacks)

/-- The hook of the workload does not blame the configuration. -/
def Workload.Blameless (workload : Workload) : Prop :=
  ∀ output elapsed fault, workload.inspect output elapsed = .faulty fault →
    fault.isConfiguration = false

theorem undescribed_course (host : Host σ) (blameless : workload.Blameless) {target : Target}
    {invocation : Invocation} (resolved : Target.ofRecord record = .ok target)
    (assigned : workload.command record = .ok invocation) :
    Course site (Watch.log host) workload target invocation
      (fun at' runner history _ => Approaches site record at' runner history)
      (fun fault runner history _ => Origin site workload record fault runner history) where
  worksAt h := h.toWorksAt
  follows same h := ⟨h.toWorksAt.agrees same.toAgrees, h.marked⟩
  passing passing h := by
    refine ⟨trivial, h.snoc h.toWorksAt fun _ mark same => ?_⟩
    rw [same, Event.pledges_of_isPassing passing, Bool.or_false]
  skip skips h := ⟨h.toWorksAt, fun lacks => skips.pledged? (h.marked lacks)⟩
  registered registers _ h :=
    ⟨trivial, h.snoc { h.toWorksAt with } fun _ => registers.pledged?⟩
  call calls h := by
    have early : Early site record _ _ := fun lacks _ => calls.pledged? lacks.undescribed
    refine .ask fun reply _ _ => ⟨trivial, ?_⟩
    have goesOn := h.called h.toWorksAt early reply
    rcases reply with cause | _
    · exact ⟨fun _ => goesOn, fun _ => h.failed (calls.isConfiguration cause) early⟩
    · exact goesOn
  retry retries h := by
    have early : Early site record _ _ := fun _ _ => retries.pledged?
    refine .ask fun reply _ _ => ⟨trivial, ?_⟩
    rcases reply with cause | _
    · have again : Early site record _ _ := fun lacks _ same => ⟨same, (early lacks same).2⟩
      refine ⟨fun _ => h.called h.toWorksAt again _, ?_⟩
      exact h.failed (Fault.isConfiguration_ofSetup _ cause) early
    · exact h.called h.toWorksAt early _
  undescribed {runner history _} optimized undescribed h := by
    have lacks : record.Lacks site.tools.optimizer target := ⟨resolved, optimized, undescribed⟩
    exact .undescribed lacks assigned rfl (Option.some.inj (h.marked lacks)).symm
  occupied complete h := by
    refine ⟨trivial, h.snoc { h.toWorksAt with } fun lacks mark same => ?_⟩
    cases complete with
    | bare baseline =>
      obtain rfl := Except.ok.inj (resolved.symm.trans lacks.resolved)
      cases baseline.symm.trans lacks.optimized
    | optimized => cases same
  abandoned h := ⟨trivial, h.noted rfl rfl⟩
  smtOff {runner _ _} _ h := by
    have off : (runner.switchedOff (.ok ())).WorksAt site := { h.toWorksAt with }
    have early : Early site record .staked .ready := fun _ _ same => nomatch same
    refine .ask fun reply _ _ => ⟨trivial, ?_⟩
    rcases reply with cause | _
    · refine ⟨fun _ => h.called h.toWorksAt early _, fun _ => ?_⟩
      exact h.failed (Fault.isConfiguration_ofSetup _ cause) early
    · exact h.called off early _
  faulty seen h := .elsewhere (blameless _ _ _ seen) fun _ lacks => nomatch h.marked lacks

theorem Untouched.entered (h : Untouched site runner history) (stage : Stage)
    (stages : List Stage) :
    Untouched site { runner with stage, stages } (history ++ [.noted (.entered stage)]) where
  toWorksAt := h.toWorksAt.agrees (.staged _ _ _)
  idle := h.idle
  quiet := by
    rw [Event.calls_append, h.quiet]
    rfl
  unpledged := by
    rw [Event.any_pledges_concat, h.unpledged]
    rfl

theorem undescribed_conduct (host : Host σ) (record : Record) (blameless : workload.Blameless) :
    Conduct site (Watch.log host) workload record
      (fun runner history _ => Untouched site runner history)
      (fun runner history _ => Untouched site runner history)
      (fun _ at' runner history _ => Approaches site record at' runner history)
      (fun fault runner history _ => Origin site workload record fault runner history) where
  begun _ _ _ h := ⟨trivial, trivial, (h.entered .idle [.idle]).entered .preparing _⟩
  refused why h := .refused why h.idle h.quiet
  start h := ⟨h.toWorksAt, fun _ => congrArg some h.unpledged.symm⟩
  course resolved assigned := undescribed_course host blameless resolved assigned

/-- Where the fault of an attempt comes from; one that ends without a fault did not get as far as
the optimizer if nothing describes it. -/
theorem attempt_origin (host : Host σ) (blameless : workload.Blameless)
    (idle : runner.cleanup.pending = []) (state : σ) :
    let attempted := (Runner.attempt workload record runner).execute host state
    (∀ fault, attempted.value.1 = .error fault →
      Origin runner.site workload record fault attempted.value.2 attempted.history) ∧
    ∀ measured, attempted.value.1 = .ok measured → ∀ target,
      record.Lacks runner.tools.optimizer target → attempted.history.any Event.pledges = false := by
  intro attempted
  have untouched : Untouched runner.site runner [] := ⟨runner.worksAt_site, idle, rfl, rfl⟩
  have ensures := (undescribed_conduct host record blameless).attempt _ _ state untouched
  have outcome : Watch.Outcome _ _ attempted.value attempted.history attempted.host :=
    ensures.finished_ofHistory
  revert outcome
  rcases attempted.value with ⟨fault | measured, after⟩
  · exact fun origin => ⟨fun _ same => Except.error.inj same ▸ origin, nofun⟩
  · intro done
    refine ⟨nofun, fun _ _ target lacks => ?_⟩
    cases measured with
    | none =>
      rcases (done.2 rfl).2 with fresh | ⟨_, launched⟩
      · exact fresh.unpledged
      · cases launched.marked lacks
    | some measurement =>
      obtain ⟨-, -, launched⟩ := done.1 measurement rfl
      cases launched.marked lacks

/-! The unwinding. -/

/-- No unwinding registers anything. -/
theorem unpledged_unwinding (host : Host σ) :
    Unwinding site (Watch.log host) (fun _ _ machine history _ =>
      machine.smtControl = site.smtControl ∧ history.any Event.pledges = false) where
  control h := h.1
  call {_ _ machine history _} reversal _ h := by
    refine ⟨trivial, .ask fun reply _ _ => ⟨trivial, ?_⟩⟩
    have registered : (history ++ [Event.noted (.reversing reversal)] ++
        [Event.called (reversal.call site) reply]).any Event.pledges = false := by
      rw [Event.any_pledges_concat, Event.any_pledges_concat, h.2]
      rfl
    exact .either ⟨(reversal.smtControl_settle machine).trans h.1, registered⟩
      fun _ => ⟨h.1, registered⟩
  settled _ h := by
    refine ⟨trivial, h.1, ?_⟩
    exact (Event.any_pledges_concat _ _).trans (by rw [h.2]; rfl)

theorem tearDown_unpledged (host : Host σ) (runner : Runner) (state : σ) :
    ((Runner.tearDown runner).execute host state).history.any Event.pledges = false := by
  have ensures : (Watch.log host).Ensures (Runner.tearDown runner) [] state
      fun out history _ => ∃ faults, out.1 = verdict faults ∧
        history.any Event.pledges = false := by
    refine (unpledged_unwinding host).tearDown
      (fun _ _ history _ => history.any Event.pledges = false) runner.worksAt_site.tools
      ⟨trivial, rfl, rfl⟩ fun _ _ _ _ h => ⟨trivial, ?_⟩
    exact (Event.any_pledges_concat _ _).trans (by rw [h.2]; rfl)
  exact ensures.finished_ofHistory.choose_spec.2

/-- After its attempt a run registers nothing, and it asks nothing of the host unless something is
pending. -/
theorem run_rest (host : Host σ) (workload : Workload) (record : Record) (runner : Runner)
    (state : σ) :
    let attempted := (Runner.attempt workload record runner).execute host state
    ∃ rest, ((Runner.run workload record runner).execute host state).history =
        attempted.history ++ rest ∧ rest.any Event.pledges = false ∧
      (attempted.value.2.cleanup.pending = [] → Event.calls rest = []) := by
  intro attempted
  by_cases broke : attempted.value.1 = .ok none
  · refine ⟨[], ?_, rfl, fun _ => rfl⟩
    rw [(Runner.run_execute_broken host broke).2, List.append_nil]
  · obtain ⟨stage, last, -, history, stages⟩ := Runner.run_execute host broke
    refine ⟨_, history, ?_, fun idle => ?_⟩
    · have unpledged : last.any Event.pledges = false := by
        rw [List.any_eq_false]
        intro event mem
        obtain ⟨stage, rfl⟩ := stages event mem
        exact Bool.false_ne_true
      rw [List.any_cons, List.any_append, tearDown_unpledged, unpledged]
      rfl
    · obtain ⟨-, -, calls⟩ := tearDown_log host (attempted.value.2.into stage) attempted.host
      have pending : (attempted.value.2.into stage).cleanup.pending = [] := idle
      rw [pending] at calls
      rw [Event.calls, Event.calls_append, Event.calls_stages stages, List.append_nil]
      exact List.map_eq_nil_iff.mp (List.sublist_nil.mp calls)

/-- That the record lacks a description is found only where the optimizer would be started, and
the unwinding does not hide it. -/
structure Record.FoundLate (record : Record) (workload : Workload) (optimizer : Optimizer)
    (target : Target) (history : List Event) : Prop extends record.Lacks optimizer target where
  assigned : ∃ invocation, workload.command record = .ok invocation
  /-- The stop of the optimizer is registered right before the optimizer would be started. -/
  reached : .noted (.registered .stopOptimizer) ∈ history
  restored : Event.failures history = []

section

variable {host : Host σ} {state : σ} (blameless : workload.Blameless)
  (idle : runner.cleanup.pending = [])
include blameless idle

/-- A description that is found missing late ends the attempt, and nothing hides that. -/
theorem Record.FoundLate.run {target : Target} :
    let run := (Runner.run workload record runner).execute host state
    record.FoundLate workload runner.tools.optimizer target run.history →
      run.value.1 = .fatal (Optimizer.undescribed target.variant) none ∧
        Event.calls run.history ≠ [] := by
  intro run late
  obtain ⟨invocation, assigned⟩ := late.assigned
  obtain ⟨rest, history, unpledged, -⟩ := run_rest host workload record runner state
  have pledged : ((Runner.attempt workload record runner).execute host state).history.any
      Event.pledges = true := by
    have reached := Event.any_pledges.mpr late.reached
    rwa [history, List.any_append, unpledged, Bool.or_false] at reached
  have ends : ((Runner.attempt workload record runner).execute host state).value.1 =
      .error (Optimizer.undescribed target.variant) := by
    obtain ⟨failed, finished⟩ := attempt_origin host blameless idle state
    cases ended : ((Runner.attempt workload record runner).execute host state).value.1 with
    | ok measured =>
      rw [finished _ ended target late.toLacks] at pledged
      cases pledged
    | error fault =>
      cases failed fault ended with
      | refused why _ _ =>
        rcases why with unresolved | refused
        · cases unresolved.symm.trans late.resolved
        · cases refused.symm.trans assigned
      | undescribed lacks _ named _ =>
        obtain rfl := Except.ok.inj (lacks.resolved.symm.trans late.resolved)
        rw [named]
      | elsewhere _ early =>
        rw [early target late.toLacks] at pledged
        cases pledged
  constructor
  · have value := run_value host workload record runner state
    rw [ends, late.restored] at value
    exact value
  · obtain ⟨calls, same⟩ := Runner.run_assigned runner late.resolved assigned
    show Event.calls ((Runner.run workload record runner).execute host state).history ≠ []
    rw [same]
    exact List.cons_ne_nil _ _

/-- A run that ends on the configuration made no call, or found a description missing late. -/
theorem run_configuration {reason : String} :
    let run := (Runner.run workload record runner).execute host state
    run.value.1.fault? = some (.configuration reason) → Event.calls run.history = [] ∨
      ∃ target, record.FoundLate workload runner.tools.optimizer target run.history := by
  intro run reported
  obtain ⟨rest, history, -, quiet⟩ := run_rest host workload record runner state
  have value := reported
  rw [run_value] at value
  rcases RunEnd.fault?_ofPhases value with attempted | unwound
  · cases (attempt_origin host blameless idle state).1 _ attempted with
    | refused _ pending none =>
      refine .inl ?_
      show Event.calls ((Runner.run workload record runner).execute host state).history = []
      rw [history, Event.calls_append, none, quiet pending]
      rfl
    | undescribed lacks assigned _ pledged =>
      refine .inr ⟨_, lacks, ⟨_, assigned⟩, ?_, ?_⟩
      · rw [← Event.any_pledges]
        show ((Runner.run workload record runner).execute host state).history.any _ = true
        rw [history, List.any_append, pledged, Bool.true_or]
      -- A reversal that failed would be reported in place of the missing description.
      · by_contra failed
        obtain ⟨fault, mem, measurement, fatal⟩ :=
          run_reported host workload record runner state failed
        obtain rfl : fault = .configuration reason :=
          Option.some.inj ((congrArg RunEnd.fault? fatal).symm.trans reported)
        cases Event.isConfiguration_of_mem_failures mem
    | elsewhere other _ => cases other
  · cases Event.isConfiguration_of_mem_failures (verdict_error unwound)

end

/-- A run that ends on the configuration has asked nothing of the host, unless its record needs an
optimizer that nothing describes, its cgroup was set up and everything was restored. -/
theorem run_resolves_first_iff (host : Host σ) (workload : Workload) (record : Record)
    (runner : Runner) (state : σ) (blameless : workload.Blameless)
    (idle : runner.cleanup.pending = []) :
    let run := (Runner.run workload record runner).execute host state
    let late := fun target =>
      record.FoundLate workload runner.tools.optimizer target run.history
    ((∀ reason, run.value.1.fault? = some (.configuration reason) →
        Event.calls run.history = []) ↔ ∀ target, ¬ late target) ∧
      ∀ target, late target →
        run.value.1 = .fatal (Optimizer.undescribed target.variant) none ∧
          Event.calls run.history ≠ [] := by
  intro run late
  have ends : ∀ target, late target → _ := fun target => Record.FoundLate.run blameless idle
  refine ⟨⟨fun resolves target found => ?_, fun early reason reported => ?_⟩, ends⟩
  · obtain ⟨fatal, calls⟩ := ends target found
    exact calls (resolves _ (congrArg RunEnd.fault? fatal))
  · refine (run_configuration blameless idle reported).resolve_right ?_
    rintro ⟨target, found⟩
    exact early target found

end

namespace Sample

/-- A runner that was given no description of the optimizer. -/
def undescribed : Runner :=
  ({} : Site).fresh .abort .on

/-- Nothing is forced to fail any more. -/
def rejected : Execution (Nat × Footprint) (RunEnd × Runner) :=
  (Runner.run workload (record .damon) undescribed).execute schedule.host (8, start)

theorem workload_blameless : workload.Blameless :=
  fun _ _ _ seen => nomatch seen

theorem rejected_foundLate :
    (record .damon).FoundLate workload undescribed.tools.optimizer ⟨.damon, 4096⟩
      rejected.history where
  resolved := rfl
  optimized := rfl
  undescribed := rfl
  assigned := ⟨_, rfl⟩
  reached := Event.any_pledges.mp (by decide +kernel)
  restored := by decide +kernel

end Sample

theorem run_resolves_first_iff_on_rejected :
    Sample.workload.Blameless ∧ Sample.undescribed.cleanup.pending = [] ∧
      Sample.rejected.value.1 = .fatal (Optimizer.undescribed .damon) none ∧
      Event.calls Sample.rejected.history ≠ [] := by
  obtain ⟨-, late⟩ := run_resolves_first_iff Sample.schedule.host Sample.workload
    (Sample.record .damon) Sample.undescribed (8, Sample.start) Sample.workload_blameless rfl
  exact ⟨Sample.workload_blameless, rfl, late _ Sample.rejected_foundLate⟩

/-- The configuration is blamed after a cgroup was created, limited and deleted again. -/
theorem configuration_blamed_after_calls :
    Sample.workload.Blameless ∧ Sample.undescribed.cleanup.pending = [] ∧
      Sample.rejected.value.1.fault? = some (.configuration
        "damon_test requests the optimizer but no optimizer config was given") ∧
      (Event.calls Sample.rejected.history).length = 8 :=
  ⟨Sample.workload_blameless, rfl, by decide +kernel, by decide +kernel⟩

end CgroupBench
