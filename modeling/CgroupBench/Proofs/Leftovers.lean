import CgroupBench.Proofs.LaunchConditions
import CgroupBench.Proofs.LoneBoundary
import CgroupBench.Proofs.WriteAhead

/-!
# Cgroups left from before

A run clears the name that it is about to use, and no other. So a cgroup that was there before
the series stands beside the runs of the other variant, until the first run of its own variant or
a reversal that was pending from before tries to delete it. Nothing else stands beside a run: of
the cgroups that a series made none is left once a run has unwound well. The hosts are those on
which a cgroup comes and goes by its tools only.
-/
namespace CgroupBench

/-- The cgroup is as it was at the start: it exists if it did, and if nobody tried to delete it
since. -/
def Remains (start : Variant → Bool) (history : List Event) (groups : Variant → Bool)
    (variant : Variant) : Prop :=
  groups variant = true ↔
    start variant = true ∧ ∀ event ∈ history, event.deletes variant = false

namespace Event

theorem deletes_of_other {call : Call} (other : call.isGroupTool = false) (reply : call.Reply)
    (variant : Variant) : (called call reply).deletes variant = false := by
  cases call with
  | run argv =>
    rw [deletes, beq_eq_false_iff_ne]
    rintro rfl
    cases variant <;> simp [Call.isGroupTool, Variant.all] at other
  | _ => rfl

theorem deletes_create (variant other : Variant)
    (reply : (Call.run (Cgroups.createArgv variant)).Reply) :
    (called (.run (Cgroups.createArgv variant)) reply).deletes other = false := by
  rw [deletes, beq_eq_false_iff_ne]
  intro same
  simp [Cgroups.createArgv, Cgroups.deleteArgv] at same

theorem deletes_self (variant : Variant)
    (reply : (Call.run (Cgroups.deleteArgv variant)).Reply) :
    (called (.run (Cgroups.deleteArgv variant)) reply).deletes variant = true :=
  beq_self_eq_true _

theorem deletes_ne {variant other : Variant} (differs : other ≠ variant)
    (reply : (Call.run (Cgroups.deleteArgv variant)).Reply) :
    (called (.run (Cgroups.deleteArgv variant)) reply).deletes other = false := by
  rw [deletes, beq_eq_false_iff_ne]
  intro same
  cases variant <;> cases other <;> first | exact differs rfl | exact absurd same (by decide)

end Event

namespace Remains

variable {start groups groups' : Variant → Bool} {history : List Event} {event : Event}
  {variant : Variant}

theorem refl (start : Variant → Bool) (variant : Variant) : Remains start [] start variant :=
  ⟨fun is => ⟨is, List.forall_mem_nil _⟩, And.left⟩

theorem snoc (h : Remains start history groups variant) (same : groups' variant = groups variant)
    (spared : event.deletes variant = false) :
    Remains start (history ++ [event]) groups' variant := by
  have grown : (∀ other ∈ history ++ [event], other.deletes variant = false) ↔
      ∀ other ∈ history, other.deletes variant = false := by
    rw [List.forall_mem_append]
    exact and_iff_left (List.forall_mem_singleton.mpr spared)
  rw [Remains, same, grown]
  exact h

/-- A cgroup that is gone after a deletion was tried remains gone. -/
theorem gone (absent : groups variant = false) (deleted : event.deletes variant = true) :
    Remains start (history ++ [event]) groups variant := by
  rw [Remains, absent]
  constructor
  · exact nofun
  · rintro ⟨-, untouched⟩
    have spared := untouched event (List.mem_append_right _ (.head _))
    exact absurd (spared.symm.trans deleted) Bool.false_ne_true

end Remains

/-- What is known at each milestone of the cgroup of the run. -/
def Milestone.Own (start : Variant → Bool) (history : List Event) (groups : Variant → Bool)
    (variant : Variant) : Milestone → Prop
  | begun | alone | claimed => Remains start history groups variant
  | cleared => groups variant = false
  | created | limited | pledged | attached | occupied | staked | ready | launched =>
    groups variant = true

theorem Milestone.Own.snoc {start groups : Variant → Bool} {history : List Event} {event : Event}
    {variant : Variant} {here : Milestone} (h : here.Own start history groups variant)
    (spared : event.deletes variant = false) :
    here.Own start (history ++ [event]) groups variant := by
  cases here with
  | begun | alone | claimed => exact Remains.snoc h rfl spared
  | _ => exact h

/-- The record whose command is launched has its cgroup, and besides it there are only those
which remain from the start. -/
structure LaunchedBeside (start : Variant → Bool) (records : List Record) (history : List Event)
    (groups : Variant → Bool) (scope : String) (variant : Variant) : Prop where
  record : ∃ record ∈ records, record.text Key.cgroupName = .ok scope
  label : variant.label = scope
  own : groups variant = true
  others : ∀ other, other ≠ variant → Remains start history groups other

section

variable {σ : Type}

/-- A watch on the launches of a series; no other event is of interest. -/
def leftoverWatch (host : Host σ) (alive : σ → Variant → Bool) (start : Variant → Bool)
    (records : List Record) : Watch σ (List Event) :=
  .ofHistory host fun before event state =>
    match event with
    | .called (.workload scope _) _ =>
      ∃ variant, LaunchedBeside start records before (alive state) scope variant
    | _ => True

/-- What holds of a run that met no fault. -/
structure Isolates (site : Site) (alive : σ → Variant → Bool) (start : Variant → Bool)
    (variant : Variant) (at' : Milestone) (runner : Runner) (history : List Event) (state : σ) :
    Prop extends runner.WorksAt site where
  others : ∀ other, other ≠ variant → Remains start history (alive state) other
  own : at'.Own start history (alive state) variant
  claimed : at' ≠ .begun → at' ≠ .alone → .deleteCgroup variant ∈ runner.cleanup.pending

/-- What holds of a run until it unwinds, wherever a fault left it. -/
structure Tracks (site : Site) (alive : σ → Variant → Bool) (start : Variant → Bool)
    (runner : Runner) (history : List Event) (state : σ) : Prop extends runner.WorksAt site where
  tracked : ∀ variant, .deleteCgroup variant ∈ runner.cleanup.pending ∨
    Remains start history (alive state) variant

/-- What holds while the reversals `todo` are still to come. -/
structure Clears (site : Site) (alive : σ → Variant → Bool) (start : Variant → Bool)
    (faults : List Fault) (todo : List Reversal) (runner : Runner) (history : List Event)
    (state : σ) : Prop extends runner.WorksAt site where
  tracked : faults = [] → ∀ variant, .deleteCgroup variant ∈ todo ∨
    Remains start history (alive state) variant

/-- What holds after an unwinding. -/
structure Cleared (site : Site) (alive : σ → Variant → Bool) (start : Variant → Bool)
    (result : Except Fault Unit) (runner : Runner) (history : List Event) (state : σ) :
    Prop extends runner.WorksAt site where
  remains : result = .ok () → ∀ variant, Remains start history (alive state) variant

variable {site : Site} {host : Host σ} {alive : σ → Variant → Bool} {start : Variant → Bool}
  {records : List Record} {workload : Workload} {invocation : Invocation} {variant : Variant}
  {here there : Milestone} {runner runner' : Runner} {history : List Event} {event : Event}
  {state state' : σ}

theorem Isolates.tracks (h : Isolates site alive start variant here runner history state) :
    Tracks site alive start runner history state where
  toWorksAt := h.toWorksAt
  tracked other := by
    by_cases same : other = variant
    · subst same
      by_cases early : here = .begun ∨ here = .alone
      · have own := h.own
        rcases early with rfl | rfl <;> exact .inr own
      · obtain ⟨begun, alone⟩ := not_or.mp early
        exact .inl (h.claimed begun alone)
    · exact .inr (h.others other same)

theorem Isolates.snoc (h : Isolates site alive start variant here runner history state)
    (works : runner'.WorksAt site) (same : alive state' = alive state)
    (spared : ∀ variant, event.deletes variant = false)
    (kept : ∀ reversal ∈ runner.cleanup.pending, reversal ∈ runner'.cleanup.pending) :
    Isolates site alive start variant here runner' (history ++ [event]) state' where
  toWorksAt := works
  others other differs := (h.others other differs).snoc (by rw [same]) (spared other)
  own := by
    rw [same]
    exact h.own.snoc (spared variant)
  claimed begun alone := kept _ (h.claimed begun alone)

/-- The next milestone, where it says the same of the own cgroup. -/
theorem Isolates.pass (h : Isolates site alive start variant here runner history state)
    (own : here.Own start history (alive state) variant →
      there.Own start history (alive state) variant)
    (claimed : there ≠ .begun → there ≠ .alone → here ≠ .begun ∧ here ≠ .alone) :
    Isolates site alive start variant there runner history state where
  toWorksAt := h.toWorksAt
  others := h.others
  own := own h.own
  claimed begun alone := h.claimed (claimed begun alone).1 (claimed begun alone).2

theorem Tracks.snoc (h : Tracks site alive start runner history state)
    (works : runner'.WorksAt site) (same : alive state' = alive state)
    (spared : ∀ variant, event.deletes variant = false)
    (kept : ∀ reversal ∈ runner.cleanup.pending, reversal ∈ runner'.cleanup.pending) :
    Tracks site alive start runner' (history ++ [event]) state' where
  toWorksAt := works
  tracked variant :=
    (h.tracked variant).imp (kept _) fun remains => remains.snoc (by rw [same]) (spared variant)

/-- A call by which no cgroup comes or goes. -/
theorem ensures_aside (keeps : KeepsGroups host alive) {call : Call}
    {post : call.Reply → List Event → σ → Prop} (other : call.isGroupTool = false)
    (h : ∀ reply state', alive state' = alive state →
      (leftoverWatch host alive start records).point history (.called call reply) state' ∧
        ((∀ variant, (Event.called call reply).deletes variant = false) →
          post reply (history ++ [.called call reply]) state')) :
    (leftoverWatch host alive start records).Ensures (.ask call .finish) history state post := by
  refine .known (fun _ state' => alive state' = alive state) (keeps.other call other state) ?_
  intro reply state' same
  obtain ⟨seen, done⟩ := h reply state' same
  exact ⟨seen, done (Event.deletes_of_other other reply)⟩

theorem leftover_course (keeps : KeepsGroups host alive) {record : Record} {target : Target}
    (mem : record ∈ records) (resolved : Target.ofRecord record = .ok target) :
    Course site (leftoverWatch host alive start records) workload target invocation
      (fun at' => Isolates site alive start target.variant at')
      (fun _ => Tracks site alive start) where
  worksAt h := h.toWorksAt
  follows same h := by
    refine ⟨h.toWorksAt.agrees same.toAgrees, h.others, h.own, ?_⟩
    rw [same.cleanup]
    exact h.claimed
  passing _ h := ⟨trivial, h.snoc h.toWorksAt rfl (fun _ => rfl) fun _ mem => mem⟩
  skip skips h := by cases skips <;> exact h.pass id (by decide)
  registered {here reversal there runner history state} registers _ h := by
    have noted : Isolates site alive start target.variant here
        { runner with cleanup := runner.cleanup.register reversal }
        (history ++ [.noted (.registered reversal)]) state :=
      h.snoc { h.toWorksAt with } rfl (fun _ => rfl) fun _ mem => List.mem_append_left _ mem
    refine ⟨trivial, ?_⟩
    cases registers with
    | deletion =>
      exact ⟨noted.toWorksAt, noted.others, noted.own, fun _ _ =>
        List.mem_append_right _ (.head _)⟩
    | stop _ | restore => exact noted.pass id (by decide)
  call {here call excused wrap there runner history state} calls h := by
    cases calls with
    | sync | dropCaches | swapOff =>
      refine ensures_aside keeps rfl fun _ _ same => ⟨trivial, fun spared => ?_⟩
      have next := h.snoc h.toWorksAt same spared fun _ mem => mem
      exact .either next fun _ => next.tracks
    | stop _ =>
      refine ensures_aside keeps (Call.isGroupTool_stop _) fun _ _ same =>
        ⟨trivial, fun spared => ?_⟩
      have next := h.snoc h.toWorksAt same spared fun _ mem => mem
      exact .either (next.pass id (by decide)) fun _ => next.tracks
    | start _ _ =>
      refine ensures_aside keeps (Call.isGroupTool_start _ _) fun _ _ same =>
        ⟨trivial, fun spared => ?_⟩
      have next := h.snoc h.toWorksAt same spared fun _ mem => mem
      exact .either (next.pass id (by decide)) fun _ => next.tracks
    | clear =>
      refine .known (fun reply state' => Removes (alive state) target.variant reply (alive state'))
        (keeps.delete target.variant state) fun reply state' law => ⟨trivial, ?_⟩
      have claimed := h.claimed (by decide) (by decide)
      have others : (∀ other, other ≠ target.variant → alive state' other = alive state other) →
          ∀ other, other ≠ target.variant → Remains start (history ++ [.called _ reply])
            (alive state') other := fun same other differs =>
        (h.others other differs).snoc (same other differs) (Event.deletes_ne differs reply)
      have cleared (same : ∀ other, other ≠ target.variant →
          alive state' other = alive state other) (absent : alive state' target.variant = false) :
          Isolates site alive start target.variant .cleared runner
            (history ++ [.called _ reply]) state' :=
        ⟨h.toWorksAt, others same, absent, fun _ _ => claimed⟩
      cases reply with
      | ok _ =>
        refine cleared (fun other differs => ?_) ?_
        · rw [law, Function.update_of_ne differs]
        · rw [law, Function.update_self]
      | error cause =>
        obtain ⟨same, absent⟩ := law
        refine ⟨fun absence => cleared (fun _ _ => by rw [same]) ?_, fun _ => ?_⟩
        · rw [same]
          exact absent absence
        · refine ⟨h.toWorksAt, fun other => ?_⟩
          by_cases own : other = target.variant
          · exact .inl (own ▸ claimed)
          · exact .inr (others (fun _ _ => by rw [same]) other own)
    | launch =>
      refine ensures_aside keeps rfl fun _ _ same => ⟨?_, fun spared => ?_⟩
      · obtain ⟨name, -⟩ := Target.ofRecord_ok resolved
        refine ⟨target.variant, ⟨record, mem, name⟩, rfl, ?_, ?_⟩
        · rw [same]
          exact h.own
        · rw [same]
          exact h.others
      · have next := h.snoc h.toWorksAt same spared fun _ mem => mem
        exact .either (next.pass id (by decide)) fun _ => next.tracks
  retry {here call what there runner history state} retries h := by
    cases retries with
    | create =>
      refine .known (fun reply state' => Adds (alive state) target.variant reply (alive state'))
        (keeps.create target.variant state) fun reply state' law => ⟨trivial, ?_⟩
      have spared := fun other => Event.deletes_create target.variant other reply
      rcases reply with cause | output
      · have next := h.snoc h.toWorksAt law spared fun _ mem => mem
        exact ⟨fun _ => next, next.tracks⟩
      · refine ⟨h.toWorksAt, fun other differs => ?_, ?_, fun _ _ =>
          h.claimed (by decide) (by decide)⟩
        · refine (h.others other differs).snoc ?_ (spared other)
          rw [law.2, Function.update_of_ne differs]
        · show alive state' target.variant = true
          rw [law.2, Function.update_self]
    | limit =>
      refine ensures_aside keeps rfl fun reply _ same => ⟨trivial, fun spared => ?_⟩
      have next := h.snoc h.toWorksAt same spared fun _ mem => mem
      rcases reply with cause | _
      · exact ⟨fun _ => next, next.tracks⟩
      · exact next.pass id (by decide)
  undescribed _ _ h := h.tracks
  occupied {here runner history state} complete h := by
    have next : Isolates site alive start target.variant here
        { runner with active := some target.boundary }
        (history ++ [.noted (.occupied (some target.boundary))]) state :=
      h.snoc { h.toWorksAt with } rfl (fun _ => rfl) fun _ mem => mem
    refine ⟨trivial, ?_⟩
    cases complete <;> exact next.pass id (by decide)
  abandoned h := ⟨trivial, h.snoc { h.toWorksAt with } rfl (fun _ => rfl) fun _ mem => mem⟩
  smtOff {runner history state} _ h := by
    refine ensures_aside keeps rfl fun reply state' same => ⟨trivial, fun spared => ?_⟩
    have next : Isolates site alive start target.variant .ready (runner.switchedOff reply)
        (history ++ [.called _ reply]) state' := by
      have works : (runner.switchedOff reply).WorksAt site := by
        cases reply <;> exact { h.toWorksAt with }
      refine (h.snoc works same spared fun _ mem => ?_).pass id (by decide)
      cases reply <;> exact mem
    cases reply with
    | ok _ => exact next
    | error cause => exact ⟨fun _ => next, fun _ => next.tracks⟩
  faulty _ h := h.tracks

theorem leftover_unwinding (keeps : KeepsGroups host alive) (runner : Runner) :
    Unwinding site (leftoverWatch host alive start records) (fun faults todo machine =>
      Clears site alive start faults todo { runner with machine }) where
  control h := h.smtControl
  call {faults todo machine history state} reversal _ h := by
    have noted : Clears site alive start faults (reversal :: todo) { runner with machine }
        (history ++ [.noted (.reversing reversal)]) state :=
      ⟨h.toWorksAt, fun none variant =>
        (h.tracked none variant).imp id fun remains => remains.snoc rfl rfl⟩
    have works := h.toWorksAt.settle reversal
    -- A reversal that failed leaves nothing to be shown.
    have failed : ∀ (cause : CallError) history state', Clears site alive start
        (faults ++ [reversal.fault cause]) todo { runner with machine } history state' :=
      fun cause _ _ => ⟨h.toWorksAt, fun none => absurd none (by simp)⟩
    have spared : (∀ variant, reversal ≠ .deleteCgroup variant) →
        ∀ (reply : (reversal.call site).Reply) state', alive state' = alive state →
          (∀ variant, (Event.called (reversal.call site) reply).deletes variant = false) →
          Clears site alive start faults todo { runner with machine := reversal.settle machine }
            (history ++ [.noted (.reversing reversal)] ++ [.called (reversal.call site) reply])
            state' := by
      intro other reply state' same spared
      refine ⟨works, fun none variant => ?_⟩
      rcases noted.tracked none variant with listed | remains
      · exact .inl (List.mem_of_ne_of_mem (other variant).symm listed)
      · exact .inr (remains.snoc (by rw [same]) (spared variant))
    refine ⟨trivial, ?_⟩
    cases reversal with
    | enableSmt =>
      refine ensures_aside keeps rfl fun reply state' same => ⟨trivial, fun aside => ?_⟩
      have passed := spared nofun reply state' same aside
      cases reply with
      | ok _ => exact passed
      | error cause => exact ⟨fun _ => passed, fun _ => failed cause _ _⟩
    | stopOptimizer =>
      refine ensures_aside keeps (Call.isGroupTool_stop _) fun reply state' same =>
        ⟨trivial, fun aside => ?_⟩
      have passed := spared nofun reply state' same aside
      cases reply with
      | ok _ => exact passed
      | error cause => exact ⟨fun _ => passed, fun _ => failed cause _ _⟩
    | deleteCgroup variant =>
      refine .known (fun reply state' => Removes (alive state) variant reply (alive state'))
        (keeps.delete variant state) fun reply state' law => ⟨trivial, ?_⟩
      have deleted : alive state' = Function.update (alive state) variant false →
          Clears site alive start faults todo { runner with machine }
            (history ++ [.noted (.reversing (.deleteCgroup variant))] ++ [.called _ reply])
            state' := by
        intro gone
        refine ⟨h.toWorksAt, fun none other => ?_⟩
        by_cases same : other = variant
        · subst same
          refine .inr (.gone ?_ (Event.deletes_self other reply))
          rw [gone, Function.update_self]
        · rcases noted.tracked none other with listed | remains
          · refine .inl (List.mem_of_ne_of_mem ?_ listed)
            exact fun equal => same (Reversal.deleteCgroup.inj equal)
          · refine .inr (remains.snoc ?_ (Event.deletes_ne same reply))
            rw [gone, Function.update_of_ne same]
      cases reply with
      | ok _ => exact deleted law
      | error cause =>
        refine ⟨fun absence => deleted ?_, fun _ => failed cause _ _⟩
        rw [law.1, ← law.2 absence, Function.update_eq_self]
  settled {faults todo machine history state} _ h := by
    refine ⟨trivial, h.toWorksAt, fun none variant => ?_⟩
    have other : Reversal.deleteCgroup variant ≠ .enableSmt := nofun
    rcases h.tracked none variant with listed | remains
    · exact .inl (List.mem_of_ne_of_mem other listed)
    · exact .inr (remains.snoc rfl rfl)

theorem Cleared.snoc {result : Except Fault Unit}
    (h : Cleared site alive start result runner history state) (works : runner'.WorksAt site)
    (spared : ∀ variant, event.deletes variant = false) :
    Cleared site alive start result runner' (history ++ [event]) state where
  toWorksAt := works
  remains ok variant := (h.remains ok variant).snoc rfl (spared variant)

theorem leftover_closes (keeps : KeepsGroups host alive) :
    Closes (leftoverWatch host alive start records) (Cleared site alive start)
      (Tracks site alive start) where
  enter _ _ h := ⟨trivial, h.snoc { h.toWorksAt with } rfl (fun _ => rfl) fun _ mem => mem⟩
  leave _ _ h := ⟨trivial, h.snoc { h.toWorksAt with } fun _ => rfl⟩
  tearDown {runner history state} h := by
    refine Watch.Ensures.mono ((leftover_unwinding keeps runner).tearDown
      (fun faults => Clears site alive start faults []) h.tools ?_ ?_) ?_
    · refine ⟨trivial, h.toWorksAt, fun _ variant => ?_⟩
      exact (h.tracked variant).imp List.mem_reverse.mpr fun remains => remains.snoc rfl rfl
    · intro faults machine history state h
      refine ⟨trivial, { h.toWorksAt with }, fun none variant => ?_⟩
      exact (h.tracked none variant).imp id fun remains => remains.snoc rfl rfl
    · rintro ⟨result, runner⟩ history state ⟨faults, reported, h⟩
      obtain rfl : result = verdict faults := reported
      refine ⟨h.toWorksAt, fun ok variant => ?_⟩
      exact (h.tracked (verdict_ok ok) variant).resolve_left List.not_mem_nil

theorem leftover_conduct (keeps : KeepsGroups host alive) {record : Record}
    (mem : record ∈ records) :
    Conduct site (leftoverWatch host alive start records) workload record
      (Cleared site alive start (.ok ())) (Cleared site alive start (.ok ()))
      (fun target at' => Isolates site alive start target.variant at')
      (fun _ => Tracks site alive start) where
  begun runner history state h := by
    have noted : Cleared site alive start (.ok ()) runner
        (history ++ [.noted (.entered .idle)]) state := h.snoc h.toWorksAt fun _ => rfl
    exact ⟨trivial, trivial, noted.snoc { noted.toWorksAt with } fun _ => rfl⟩
  refused _ h := ⟨h.toWorksAt, fun variant => .inr (h.remains rfl variant)⟩
  start h := ⟨h.toWorksAt, fun other _ => h.remains rfl other, h.remains rfl _,
    fun begun => absurd rfl begun⟩
  course resolved _ := leftover_course keeps mem resolved

theorem leftover_relay (keeps : KeepsGroups host alive) (site : Site) :
    Relay (leftoverWatch host alive start records) workload
      (fun rest runner history state => (∀ record ∈ rest, record ∈ records) ∧
        Cleared site alive start (.ok ()) runner history state)
      (fun _ _ _ => True) where
  run {record rest runner history state} h := by
    obtain ⟨mem, rest⟩ := List.forall_mem_cons.mp h.1
    refine Watch.Ensures.mono ((leftover_conduct keeps mem).run (leftover_closes keeps)
      (fun _ _ _ _ h => h.tracks) (fun _ _ _ _ h => h) h.2) fun _ _ _ ended => ?_
    refine ended.mono (fun _ _ _ _ => trivial) fun result _ _ _ cleared => ⟨trivial, ?_⟩
    rintro rfl
    exact ⟨rest, cleared⟩
  ended _ := trivial
  restore _ _ := ⟨trivial, trivial⟩

/-- At a launch the cgroup of the record is there. The other one is there if, and only if, it was
there before the series and nobody has tried to delete it since. -/
theorem launched_beside_leftovers (keeps : KeepsGroups host alive) (runner : Runner)
    (workload : Workload) (records : List Record) (measurements : List Measurement) (state : σ)
    {before after : List Event} {scope : String} {invocation : Invocation}
    {reply : Except CallError Timed}
    (launch : ((runner.runSeries workload records measurements).execute host state).history =
      before ++ .called (.workload scope invocation) reply :: after) :
    ∃ variant, LaunchedBeside (alive state) records before (alive (host.follow state before))
      scope variant := by
  have series : (leftoverWatch host alive (alive state) records).Ensures
      (runner.runSeries workload records measurements) [] state fun _ _ _ => True :=
    (leftover_relay keeps runner.site).runSeries records measurements
      ⟨fun _ mem => mem, runner.worksAt_site, fun _ => Remains.refl _⟩
  obtain ⟨variant, beside⟩ := series.reached_ofHistory launch
  have unmoved : alive (host.follow state
      (before ++ [.called (.workload scope invocation) reply])) =
      alive (host.follow state before) := by
    rw [host.follow_append]
    exact keeps.other (.workload scope invocation) rfl _
  rw [unmoved] at beside
  exact ⟨variant, beside⟩

end

namespace Sample

/-- Only the cgroup of the baseline variant is left from before. -/
def leftover : Footprint where
  cgroup variant := if variant = .baseline then some none else none
  optimizer := false
  smt := some "on\n"

/-- An optimized run beside it, on which nothing fails. -/
def onLeftover : Execution (Nat × Footprint) (SeriesResult × Runner) :=
  ((site.fresh .abort .on).runSeries workload [record .damon] []).execute rescue.host (0, leftover)

end Sample

/-- The series is cut at the launch of its only run. -/
theorem launched_beside_leftovers_on_leftover :
    let before := Sample.onLeftover.history.take 15
    ∃ variant, LaunchedBeside Sample.leftover.groups [Sample.record .damon] before
      (Sample.rescue.host.follow (0, Sample.leftover) before).2.groups "damon_test" variant := by
  intro before
  have launch : Sample.onLeftover.history = before ++
      .called (.workload "damon_test" { argv := ["sleep", "1"] }) (.ok ⟨{}, ⟨1, 0⟩⟩) ::
        Sample.onLeftover.history.drop 16 :=
    (List.take_append_drop 15 _).symm.trans (congrArg _ rfl)
  exact launched_beside_leftovers Sample.rescue.keepsGroups (Sample.site.fresh .abort .on)
    Sample.workload [Sample.record .damon] [] (0, Sample.leftover) launch

/-- The host is faithful and the series comes to its end, and at the launch of the optimized run
both cgroups are there. -/
theorem leftover_beside_launch :
    let before := Sample.onLeftover.history.take 15
    Faithful Sample.site Sample.rescue.host Prod.snd ∧
      Sample.onLeftover.value.1.ending = .finished ∧
      (∃ invocation reply after, Sample.onLeftover.history =
        before ++ .called (.workload "damon_test" invocation) reply :: after) ∧
      ∀ variant,
        (Sample.rescue.host.follow (0, Sample.leftover) before).2.groups variant = true := by
  refine ⟨Schedule.faithful _, by decide +kernel, ?_, ?_⟩
  · exact ⟨_, _, _, (List.take_append_drop 15 _).symm.trans (congrArg _ rfl)⟩
  · intro variant
    cases variant <;> decide +kernel

end CgroupBench
