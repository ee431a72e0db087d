import CgroupBench.Proofs.Conduct
import CgroupBench.Proofs.FaultyHost
import CgroupBench.Proofs.Preflight
import CgroupBench.Proofs.Unwinding

/-!
# What a launch can rely on

Whatever earlier runs and other programs left behind, the command of a record is launched in
a cgroup that this run created and limited, with the optimizer beside it exactly where the
variant asks for it. What is known of the host grows from one milestone of a run to the next;
nothing is known of it when the run begins, so nothing has to be known of how the runs before
it ended.
-/
namespace CgroupBench

namespace Event

/-- A run begins by being idle. -/
def begins : Event → Bool
  | noted (.entered .idle) => true
  | _ => false

theorem begins_entered {stage : Stage} (busy : stage ≠ .idle) :
    (noted (.entered stage)).begins = false := by
  cases stage with
  | idle => exact absurd rfl busy
  | _ => rfl

def deletes (variant : Variant) : Event → Bool
  | called (.run argv) _ => argv == Cgroups.deleteArgv variant
  | _ => false

/-- The boundary that the runner works in after the event. -/
def occupy (active : Option Boundary) : Event → Option Boundary
  | noted (.occupied boundary) => boundary
  | _ => active

/-- The cgroup was created after the latest run began, and no deletion was tried since. -/
def Created (variant : Variant) (history : List Event) : Prop :=
  ∃ earlier output later,
    history = earlier ++ called (.run (Cgroups.createArgv variant)) (.ok output) :: later ∧
      ∀ event ∈ later, event.begins = false ∧ event.deletes variant = false

/-- A cgroup that this run created is still one after the event. -/
structure Keeps (variant : Variant) (event : Event) : Prop where
  begins : event.begins = false
  deletes : event.deletes variant = false

theorem Created.snoc {variant : Variant} {history : List Event} {event : Event}
    (created : Created variant history) (keeps : event.Keeps variant) :
    Created variant (history ++ [event]) := by
  obtain ⟨earlier, output, later, rfl, since⟩ := created
  refine ⟨earlier, output, later ++ [event], by simp, ?_⟩
  intro other mem
  rcases List.mem_append.mp mem with mem | mem
  · exact since _ mem
  · rw [List.mem_singleton.mp mem]
    exact ⟨keeps.begins, keeps.deletes⟩

theorem created_now (variant : Variant) (history : List Event) (output : Output) :
    Created variant (history ++ [called (.run (Cgroups.createArgv variant)) (.ok output)]) :=
  ⟨history, output, [], rfl, List.forall_mem_nil _⟩

end Event

theorem Target.ofRecord_ok {record : Record} {target : Target}
    (resolved : ofRecord record = .ok target) :
    record.text Key.cgroupName = .ok target.variant.label ∧
      record.int Key.cgroupSize = .ok target.memoryLimit := by
  obtain ⟨name, limit, -⟩ := ofRecord_eq_ok.mp resolved
  exact ⟨Record.text_eq_ok.mpr name, Record.int_eq_ok.mpr limit⟩

/-- What a launch is promised: `before` is the history until then. -/
structure Launchable (workload : Workload) (record : Record) (boundary : Boundary)
    (active : Option Boundary) (before : List Event) (footprint : Footprint) (scope : String)
    (invocation : Invocation) : Prop where
  name : record.text Key.cgroupName = .ok scope
  label : boundary.variant.label = scope
  limit : record.int Key.cgroupSize = .ok boundary.memoryLimit
  command : workload.command record = .ok invocation
  attached : boundary.optimizerAttached = boundary.variant.isOptimized
  active : before.foldl Event.occupy active = some boundary
  created : Event.Created boundary.variant before
  confined : footprint.cgroup boundary.variant = some (some s!"{boundary.memoryLimit.toNat}\n")
  optimizer : footprint.optimizer = boundary.variant.isOptimized

namespace Target

/-- A baseline run has no optimizer beside it. -/
def Alone (target : Target) (footprint : Footprint) : Prop :=
  target.variant.isOptimized = false → footprint.optimizer = false

structure Confined (target : Target) (history : List Event) (footprint : Footprint) : Prop where
  created : Event.Created target.variant history
  limited : footprint.cgroup target.variant = some (some s!"{target.memoryLimit.toNat}\n")

structure Settled (target : Target) (active : Option Boundary) (history : List Event)
    (footprint : Footprint) : Prop extends target.Confined history footprint where
  optimizer : footprint.optimizer = target.variant.isOptimized
  active : history.foldl Event.occupy active = some target.boundary

/-- What is known at each milestone. -/
def Holds (target : Target) (active : Option Boundary) (history : List Event)
    (footprint : Footprint) : Milestone → Prop
  | .begun => True
  | .alone | .claimed => target.Alone footprint
  | .cleared => target.Alone footprint ∧ footprint.cgroup target.variant = none
  | .created =>
    target.Alone footprint ∧ Event.Created target.variant history ∧
      footprint.cgroup target.variant = some none
  | .limited | .pledged => target.Alone footprint ∧ target.Confined history footprint
  | .attached => footprint.optimizer = true ∧ target.Confined history footprint
  | .occupied | .staked | .ready | .launched => target.Settled active history footprint

variable {target : Target} {active : Option Boundary} {history : List Event} {event : Event}
  {before after : Footprint}

theorem Confined.snoc (confined : target.Confined history before)
    (keeps : event.Keeps target.variant) (cgroup : after.cgroup = before.cgroup) :
    target.Confined (history ++ [event]) after where
  created := confined.created.snoc keeps
  limited := by rw [cgroup, confined.limited]

theorem Settled.snoc (settled : target.Settled active history before)
    (keeps : event.Keeps target.variant) (within : ∀ active, event.occupy active = active)
    (cgroup : after.cgroup = before.cgroup)
    (optimizer : after.optimizer = before.optimizer) :
    target.Settled active (history ++ [event]) after where
  toConfined := settled.toConfined.snoc keeps cgroup
  optimizer := optimizer.trans settled.optimizer
  active := by
    rw [List.foldl_append, settled.active]
    exact within _

theorem Holds.snoc {at' : Milestone} (holds : target.Holds active history before at')
    (keeps : event.Keeps target.variant) (within : ∀ active, event.occupy active = active)
    (cgroup : after.cgroup = before.cgroup)
    (optimizer : after.optimizer = before.optimizer) :
    target.Holds active (history ++ [event]) after at' := by
  have alone (h : target.Alone before) : target.Alone after := fun baseline =>
    optimizer.trans (h baseline)
  cases at' with
  | begun => trivial
  | alone | claimed => exact alone holds
  | cleared => exact ⟨alone holds.1, by rw [cgroup, holds.2]⟩
  | created => exact ⟨alone holds.1, holds.2.1.snoc keeps, by rw [cgroup, holds.2.2]⟩
  | limited | pledged => exact ⟨alone holds.1, holds.2.snoc keeps cgroup⟩
  | attached => exact ⟨optimizer.trans holds.1, holds.2.snoc keeps cgroup⟩
  | occupied | staked | ready | launched => exact Settled.snoc holds keeps within cgroup optimizer

end Target

/-- What is known throughout a run: which one it is. -/
structure Underway (site : Site) (turn : Nat) (runner : Runner) (history : List Event) :
    Prop extends runner.WorksAt site where
  turn : history.countP Event.begins = turn

theorem Underway.snoc {site : Site} {turn : Nat} {runner after : Runner} {history : List Event}
    {event : Event} (underway : Underway site turn runner history) (same : event.begins = false)
    (works : after.WorksAt site) : Underway site turn after (history ++ [event]) where
  toWorksAt := works
  turn := by rw [List.countP_append, underway.turn, List.countP_singleton, same]; rfl

theorem Underway.called {site : Site} {turn : Nat} {runner : Runner} {history : List Event}
    {call : Call} {reply : call.Reply} (underway : Underway site turn runner history) :
    Underway site turn runner (history ++ [.called call reply]) :=
  underway.snoc rfl underway.toWorksAt

section

variable {σ : Type}

/-- A watch on the launches of a series; no other event is of interest. -/
def launchWatch (host : Host σ) (see : σ → Footprint) (workload : Workload)
    (records : List Record) (active : Option Boundary) : Watch σ (List Event) :=
  .ofHistory host fun before event state =>
    match event with
    | .called (.workload scope invocation) _ =>
      ∃ turn record boundary, before.countP Event.begins = turn + 1 ∧
        records[turn]? = some record ∧
          Launchable workload record boundary active before (see state) scope invocation
    | _ => True

/-- What is known of the run with this number at each milestone. -/
structure Stands (site : Site) (see : σ → Footprint) (active : Option Boundary) (turn : Nat)
    (target : Target) (at' : Milestone) (runner : Runner) (history : List Event) (state : σ) :
    Prop extends Underway site turn runner history where
  holds : target.Holds active history (see state) at'

variable {site : Site} {host : Host σ} {see : σ → Footprint} {workload : Workload}
  {records : List Record} {active : Option Boundary} {turn : Nat} {target : Target}
  {invocation : Invocation}

theorem launch_course (faithful : Faithful site host see) (apart : site.controls.Nodup)
    {record : Record} (now : records[turn]? = some record)
    (resolved : Target.ofRecord record = .ok target)
    (asked : workload.command record = .ok invocation) :
    Course site (launchWatch host see workload records active) workload target invocation
      (Stands site see active (turn + 1) target)
      (fun _ runner history _ => Underway site (turn + 1) runner history) where
  worksAt h := h.toWorksAt
  follows same h := { h with toWorksAt := h.toWorksAt.agrees same.toAgrees }
  passing {note _ runner history state} passing h := by
    obtain ⟨keeps, within⟩ : (Event.noted note).Keeps target.variant ∧
        ∀ active, (Event.noted note).occupy active = active := by
      cases note with
      | entered stage => cases stage <;> first | exact ⟨⟨rfl, rfl⟩, fun _ => rfl⟩ | cases passing
      | inspected output => exact ⟨⟨rfl, rfl⟩, fun _ => rfl⟩
      | _ => cases passing
    have kept := h.holds.snoc keeps within rfl rfl
    exact ⟨trivial, h.toUnderway.snoc keeps.begins h.toWorksAt, kept⟩
  skip skips h := by
    refine ⟨h.toUnderway, ?_⟩
    cases skips with
    | optimized optimized =>
      exact fun baseline => absurd (optimized.symm.trans baseline) nofun
    | untouched _ | already _ => exact h.holds
  registered {_ reversal _ runner history state} registers _ h := by
    have kept : target.Holds active (history ++ [.noted (.registered reversal)]) (see state) _ :=
      h.holds.snoc ⟨rfl, rfl⟩ (fun _ => rfl) rfl rfl
    refine ⟨trivial, h.toUnderway.snoc rfl { h.toWorksAt with }, ?_⟩
    cases registers <;> exact kept
  call {here call excused wrap there runner history state} calls h := by
    cases calls with
    | sync | dropCaches | swapOff =>
      exact .ask fun _ _ _ => ⟨trivial, .either ⟨h.called, trivial⟩ fun _ => h.called⟩
    | stop baseline =>
      refine .obey faithful.stop ?_
      rintro (cause | output) state' law
      · obtain ⟨same, idle⟩ := law
        refine ⟨trivial, fun exited => ⟨h.called, fun _ => ?_⟩, fun _ => h.called⟩
        rw [same, idle exited]
      · refine ⟨trivial, h.called, fun _ => ?_⟩
        rw [law]
    | clear =>
      have alone : target.Alone (see state) := h.holds
      refine .obey (faithful.delete target.variant) ?_
      rintro (cause | output) state' law
      -- A failed deletion is excused only if it found nothing, and then the cgroup is gone too.
      · obtain ⟨same, absent⟩ := law
        refine ⟨trivial, fun absence => ⟨h.called, ?_⟩, fun _ => h.called⟩
        rw [same]
        exact ⟨alone, absent absence⟩
      · refine ⟨trivial, h.called, ?_⟩
        rw [law]
        exact ⟨alone, Function.update_self _ _ _⟩
    | @start descriptor described optimized =>
      obtain ⟨-, confined⟩ : target.Alone (see state) ∧ target.Confined history (see state) :=
        h.holds
      refine .obey (faithful.start descriptor) ?_
      rintro (cause | output) state' law
      · exact ⟨trivial, nofun, fun _ => h.called⟩
      · refine ⟨trivial, h.called, ?_⟩
        rw [law]
        have other : site.tools.optimizer.startArgv descriptor ≠
            Cgroups.deleteArgv target.variant := by
          simp [Optimizer.startArgv, Cgroups.deleteArgv]
        exact ⟨rfl, confined.snoc ⟨rfl, beq_false_of_ne other⟩ rfl⟩
    | launch =>
      have settled : target.Settled active history (see state) := h.holds
      refine .obey (faithful.workload _ _) fun _ state' law => ?_
      have launchable : Launchable workload record target.boundary active history (see state')
          target.variant.label invocation := by
        obtain ⟨name, limit⟩ := Target.ofRecord_ok resolved
        rw [law]
        exact ⟨name, rfl, limit, asked, rfl, settled.active, settled.created, settled.limited,
          settled.optimizer⟩
      refine ⟨⟨turn, record, target.boundary, h.turn, now, launchable⟩, ?_⟩
      refine .either ⟨h.called, ?_⟩ fun _ => h.called
      rw [law]
      exact settled.snoc ⟨rfl, rfl⟩ (fun _ => rfl) rfl rfl
  retry {here call what there runner history state} retries h := by
    cases retries with
    | create =>
      have cleared : target.Alone (see state) ∧ (see state).cgroup target.variant = none := h.holds
      refine .obey (faithful.create target.variant) ?_
      rintro (cause | output) state' law
      · refine ⟨trivial, fun _ => ⟨h.called, ?_⟩, h.called⟩
        rw [law]
        exact cleared
      · refine ⟨trivial, h.called, ?_⟩
        rw [law.2]
        exact ⟨cleared.1, Event.created_now _ _ _, Function.update_self _ _ _⟩
    | limit =>
      obtain ⟨alone, created, empty⟩ : target.Alone (see state) ∧
          Event.Created target.variant history ∧
          (see state).cgroup target.variant = some none := h.holds
      refine .obey (faithful.write _ (site.limitPath_mem_controls _) _) ?_
      have since : ∀ reply, Event.Created target.variant
          (history ++ [.called (.write (site.tools.cgroups.limitPath target.variant)
            s!"{target.memoryLimit.toNat}\n") reply]) := fun _ =>
        created.snoc ⟨rfl, rfl⟩
      rintro (cause | _) state' law
      -- A limit that could not be written is written again; the cgroup stays the one just created.
      · refine ⟨trivial, fun _ => ⟨h.called, ?_⟩, h.called⟩
        rw [law]
        exact ⟨alone, since _, empty⟩
      · refine ⟨trivial, h.called, ?_⟩
        rw [law, Footprint.write_limitPath apart, empty]
        exact ⟨alone, since _, Function.update_self _ _ _⟩
  undescribed _ _ h := h.toUnderway
  occupied {here runner history state} complete h := by
    obtain ⟨confined, beside⟩ : target.Confined history (see state) ∧
        (see state).optimizer = target.variant.isOptimized := by
      cases complete with
      | bare baseline =>
        obtain ⟨alone, confined⟩ : target.Alone (see state) ∧ target.Confined history (see state) :=
          h.holds
        exact ⟨confined, (alone baseline).trans baseline.symm⟩
      | optimized optimized =>
        obtain ⟨running, confined⟩ : (see state).optimizer = true ∧
            target.Confined history (see state) := h.holds
        exact ⟨confined, running.trans optimized.symm⟩
    refine ⟨trivial, h.toUnderway.snoc rfl { h.toWorksAt with }, ?_⟩
    exact ⟨confined.snoc ⟨rfl, rfl⟩ rfl, beside, List.foldl_append⟩
  abandoned h := ⟨trivial, h.snoc rfl { h.toWorksAt with }⟩
  smtOff {runner history state} _ h := by
    have settled : target.Settled active history (see state) := h.holds
    refine .obey (faithful.write _ (.head _) _) ?_
    rintro (cause | _) state' law
    · refine ⟨trivial, fun _ => ⟨h.called, ?_⟩, fun _ => h.called⟩
      rw [law]
      exact settled.snoc ⟨rfl, rfl⟩ (fun _ => rfl) rfl rfl
    · refine ⟨trivial, h.toUnderway.snoc rfl { h.toWorksAt with }, ?_⟩
      rw [law, Footprint.write_smtControl apart]
      exact settled.snoc ⟨rfl, rfl⟩ (fun _ => rfl) rfl rfl
  faulty _ h := h.toUnderway

/-- No reversal is a launch, so all that is followed through an unwinding is which run it is. -/
theorem launch_unwinding (runner : Runner) (turn : Nat) :
    Unwinding site (launchWatch host see workload records active)
      (fun _ _ machine history _ => Underway site turn { runner with machine } history) where
  control h := h.smtControl
  call {_ _ machine history _} reversal _ h := by
    have noted : Underway site turn { runner with machine }
        (history ++ [.noted (.reversing reversal)]) := h.snoc rfl h.toWorksAt
    refine ⟨trivial, .ask fun reply _ _ => ⟨by cases reversal <;> trivial, ?_⟩⟩
    have settled := noted.toWorksAt.settle reversal
    exact .either (noted.snoc rfl settled) fun _ => noted.snoc rfl noted.toWorksAt
  settled _ h := ⟨trivial, h.snoc rfl h.toWorksAt⟩

theorem launch_enter {runner : Runner} {history : List Event} {state : σ} {stage : Stage}
    (busy : stage ≠ .idle) (h : Underway site turn runner history) :
    (launchWatch host see workload records active).Ensures (Runner.enter stage runner) history
      state fun out history _ => Underway site turn out.2 history :=
  ⟨by cases stage <;> trivial, h.snoc (Event.begins_entered busy) { h.toWorksAt with }⟩

theorem launch_closes (turn : Nat) :
    Closes (launchWatch host see workload records active)
      (fun _ runner history _ => Underway site turn runner history)
      (fun runner history _ => Underway site turn runner history) where
  enter _ busy h := launch_enter busy h
  leave _ busy h := launch_enter busy h
  tearDown {runner history state} h := by
    refine Watch.Ensures.mono ((launch_unwinding runner turn).tearDown
      (fun _ runner history _ => Underway site turn runner history) h.tools ?_ ?_) ?_
    · exact ⟨trivial, h.snoc rfl h.toWorksAt⟩
    · exact fun _ _ _ _ h => ⟨trivial, h.snoc rfl { h.toWorksAt with }⟩
    · exact fun _ _ _ ⟨_, _, h⟩ => h

theorem launch_conduct (faithful : Faithful site host see) (apart : site.controls.Nodup)
    {record : Record} (now : records[turn]? = some record) :
    Conduct site (launchWatch host see workload records active) workload record
      (fun runner history _ => Underway site turn runner history)
      (fun runner history _ => Underway site (turn + 1) runner history)
      (Stands site see active (turn + 1))
      (fun _ runner history _ => Underway site (turn + 1) runner history) where
  begun runner history state h := by
    have began : Underway site (turn + 1) runner (history ++ [.noted (.entered .idle)]) := by
      refine ⟨h.toWorksAt, ?_⟩
      rw [List.countP_append, h.turn]
      rfl
    exact ⟨trivial, trivial, began.snoc rfl { began.toWorksAt with }⟩
  refused _ h := h
  start h := ⟨h, trivial⟩
  course resolved asked := launch_course faithful apart now resolved asked

theorem launch_relay (faithful : Faithful site host see) (apart : site.controls.Nodup) :
    Relay (launchWatch host see workload records active) workload
      (fun rest runner history _ => ∃ done, records = done ++ rest ∧
        Underway site done.length runner history)
      (fun runner _ _ => runner.WorksAt site) where
  run {record rest runner history state} h := by
    obtain ⟨done, whole, h⟩ := h
    have now : records[done.length]? = some record := by simp [whole]
    refine Watch.Ensures.mono ((launch_conduct faithful apart now).run (launch_closes _)
      (fun _ _ _ _ h => h.toUnderway) (fun _ _ _ _ h => h) h) fun _ _ _ h => ?_
    refine h.mono (fun _ _ _ _ => trivial) fun _ _ _ _ h => ?_
    refine ⟨h.toWorksAt, fun _ => ⟨done ++ [record], ?_, ?_⟩⟩
    · rw [whole, List.append_assoc]
      rfl
    · rw [List.length_append]
      exact h
  ended := fun ⟨_, _, h⟩ => h.toWorksAt
  restore _ _ := ⟨trivial, trivial⟩

/-- The run that makes a launch is told by how many runs have begun, and its record by its
place in the series. -/
theorem launches_in_boundary (faithful : Faithful site host see) (apart : site.controls.Nodup)
    {runner : Runner} (works : runner.WorksAt site) (workload : Workload) (records : List Record)
    (measurements : List Measurement) (state : σ) {before after : List Event} {scope : String}
    {invocation : Invocation} {reply : Except CallError Timed}
    (launch : ((runner.runSeries workload records measurements).execute host state).history =
      before ++ .called (.workload scope invocation) reply :: after) :
    ∃ turn record boundary, before.countP Event.begins = turn + 1 ∧
      records[turn]? = some record ∧
      Launchable workload record boundary runner.active before (see (host.follow state before))
        scope invocation := by
  have series : (launchWatch host see workload records runner.active).Ensures
      (runner.runSeries workload records measurements) [] state fun _ _ _ => True :=
    (launch_relay faithful apart).runSeries records measurements ⟨[], rfl, works, rfl⟩
  obtain ⟨turn, record, boundary, counted, now, launchable⟩ := series.reached_ofHistory launch
  have unmoved : see (host.follow state (before ++ [.called (.workload scope invocation) reply])) =
      see (host.follow state before) := by
    rw [host.follow_append]
    exact faithful.workload scope invocation _
  rw [unmoved] at launchable
  exact ⟨turn, record, boundary, counted, now, launchable⟩

end

namespace Sample

/-- Both cgroups are left from before with a limit of their own, and the optimizer runs. -/
def stale : Footprint where
  cgroup _ := some (some "1\n")
  optimizer := true
  smt := some "on\n"

/-- An optimized run, in which SMT could not be switched off, and a baseline run after it. -/
def onStale : Execution (Nat × Footprint) (SeriesResult × Runner) :=
  ((site.fresh .goOn .on).runSeries workload [record .damon, record .baseline] []).execute
    schedule.host (0, stale)

end Sample

/-- The series is cut at the launch of its second run. -/
theorem launches_in_boundary_on_stale :
    let before := Sample.onStale.history.take 41
    ∃ turn record boundary, before.countP Event.begins = turn + 1 ∧
      [Sample.record .damon, Sample.record .baseline][turn]? = some record ∧
      Launchable Sample.workload record boundary none before
        (Sample.schedule.host.follow (0, Sample.stale) before).2 "baseline_test"
        { argv := ["sleep", "1"] } := by
  intro before
  have launch : Sample.onStale.history = before ++
      .called (.workload "baseline_test" { argv := ["sleep", "1"] }) (.ok ⟨{}, ⟨1, 0⟩⟩) ::
        Sample.onStale.history.drop 42 :=
    (List.take_append_drop 41 _).symm.trans (congrArg _ rfl)
  exact launches_in_boundary Sample.schedule.faithful (by decide) ⟨rfl, rfl, rfl⟩ Sample.workload
    [Sample.record .damon, Sample.record .baseline] [] (0, Sample.stale) launch

end CgroupBench
