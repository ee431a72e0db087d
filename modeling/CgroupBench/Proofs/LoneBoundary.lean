import CgroupBench.Proofs.Conduct
import CgroupBench.Proofs.FaultyHost
import CgroupBench.Proofs.Unwinding
import CgroupBench.Proofs.Undoing

/-!
# One boundary at a time

A series that finds none of its cgroups never leaves two of them standing, and no cgroup is
ever created while it exists. Little is asked of the host for that: a cgroup comes into being
and ceases to be only by its tools, and a deletion that fails does not claim wrongly that it
was not there. A cgroup may be busy at any time. What exists during a run has its deletion
pending, and a run follows another only if each of the pending deletions did its work.
-/
namespace CgroupBench

/-- The call is to one of the tools that create and delete cgroups. -/
def Call.isGroupTool : Call → Bool
  | .run argv => Variant.all.any fun variant =>
      argv == Cgroups.createArgv variant || argv == Cgroups.deleteArgv variant
  | _ => false

theorem Call.isGroupTool_stop (optimizer : Optimizer) :
    (Call.run optimizer.stopArgv).isGroupTool = false := by
  simp [isGroupTool, Variant.all, Optimizer.stopArgv, Cgroups.createArgv, Cgroups.deleteArgv]

theorem Call.isGroupTool_start (optimizer : Optimizer) (descriptor : String) :
    (Call.run (optimizer.startArgv descriptor)).isGroupTool = false := by
  simp [isGroupTool, Variant.all, Optimizer.startArgv, Cgroups.createArgv, Cgroups.deleteArgv]

theorem Cgroups.createArgv_injective : Function.Injective createArgv := by
  intro first second same
  cases first <;> cases second <;> first | rfl | exact absurd same (by decide)

/-! Which cgroups there are after a call to one of the tools, by its reply. -/

section

variable (before : Variant → Bool) (variant : Variant)

def Adds : Except CallError Output → (Variant → Bool) → Prop
  | .ok _, after => before variant = false ∧ after = Function.update before variant true
  | .error _, after => after = before

def Removes : Except CallError Output → (Variant → Bool) → Prop
  | .ok _, after => after = Function.update before variant false
  | .error cause, after =>
    after = before ∧ (cause.saysAbsent = true → before variant = false)

end

section

variable {σ : Type} (host : Host σ) (alive : σ → Variant → Bool)

/-- Whether a cgroup exists is changed by its tools only. -/
structure KeepsGroups : Prop where
  create : ∀ variant state, Adds (alive state) variant
    (host.answer state (.run (Cgroups.createArgv variant))).1
    (alive (host.answer state (.run (Cgroups.createArgv variant))).2)
  delete : ∀ variant state, Removes (alive state) variant
    (host.answer state (.run (Cgroups.deleteArgv variant))).1
    (alive (host.answer state (.run (Cgroups.deleteArgv variant))).2)
  other : ∀ call, call.isGroupTool = false → ∀ state,
    alive (host.answer state call).2 = alive state

end

def Vacant (groups : Variant → Bool) : Prop :=
  ∀ variant, groups variant = false

def Lone (groups : Variant → Bool) : Prop :=
  ∀ first second, groups first = true → groups second = true → first = second

theorem Vacant.lone {groups : Variant → Bool} (vacant : Vacant groups) : Lone groups := by
  intro first _ exists_
  rw [vacant first] at exists_
  cases exists_

theorem of_update_false {groups : Variant → Bool} {variant other : Variant}
    (exists_ : Function.update groups variant false other = true) :
    other ≠ variant ∧ groups other = true := by
  by_cases same : other = variant
  · rw [same, Function.update_self] at exists_
    cases exists_
  · rw [Function.update_of_ne same] at exists_
    exact ⟨same, exists_⟩

theorem Lone.update_false {groups : Variant → Bool} (lone : Lone groups) (variant : Variant) :
    Lone (Function.update groups variant false) := fun _ _ is is' =>
  lone _ _ (of_update_false is).2 (of_update_false is').2

/-- A creation that was refused was for a cgroup that does not exist. -/
def Event.CreatesAbsent (groups : Variant → Bool) : Event → Prop
  | .called (.run argv) (.error _) =>
    ∀ variant, argv = Cgroups.createArgv variant → groups variant = false
  | _ => True

theorem Event.createsAbsent_of_other {call : Call} {groups : Variant → Bool}
    (other : call.isGroupTool = false) (reply : call.Reply) :
    (called call reply).CreatesAbsent groups := by
  cases call with
  | run argv =>
    cases reply with
    | ok output => trivial
    | error cause =>
      rintro variant rfl
      cases variant <;> simp [Call.isGroupTool, Variant.all] at other
  | _ => trivial

section

variable {σ : Type}

/-- The premise is that there were none at the start. -/
def groupWatch (host : Host σ) (alive : σ → Variant → Bool) (premise : Prop) : Watch σ Unit where
  host
  enter _ _ := ()
  point _ event state := (premise → Lone (alive state)) ∧ event.CreatesAbsent (alive state)

variable {site : Site} {host : Host σ} {alive : σ → Variant → Bool} {premise : Prop}
  {workload : Workload} {target : Target} {invocation : Invocation} {runner runner' : Runner}
  {state state' : σ} {here there : Milestone}

theorem ensures_other (keeps : KeepsGroups host alive) {call : Call} {account : Unit}
    {post : call.Reply → Unit → σ → Prop} (other : call.isGroupTool = false)
    (lone : premise → Lone (alive state))
    (h : ∀ reply state', alive state' = alive state → post reply () state') :
    (groupWatch host alive premise).Ensures (.ask call .finish) account state post := by
  have same := keeps.other call other state
  refine ⟨⟨?_, Event.createsAbsent_of_other other _⟩, h _ _ same⟩
  show premise → Lone (alive (host.answer state call).2)
  rw [same]
  exact lone

theorem ensures_removal (keeps : KeepsGroups host alive) {variant : Variant} {account : Unit}
    {wrap : CallError → Fault} {after : Unit → σ → Prop} {broken : Fault → Unit → σ → Prop}
    (lone : premise → Lone (alive state))
    (gone : ∀ state', alive state' = Function.update (alive state) variant false → after () state')
    (failed : ∀ cause state', alive state' = alive state → broken (wrap cause) () state') :
    (groupWatch host alive premise).Ensures (.ask (.run (Cgroups.deleteArgv variant)) .finish)
      account state (Watch.Reply CallError.saysAbsent wrap after broken) := by
  refine .known (fun reply state' => Removes (alive state) variant reply (alive state'))
    (keeps.delete variant state) ?_
  rintro (cause | output) state' law
  · obtain ⟨same, absent⟩ := law
    refine ⟨⟨fun start => same ▸ lone start, ?_⟩, fun absence => gone _ ?_, fun _ =>
      failed _ _ same⟩
    · intro other argv
      simp [Cgroups.deleteArgv, Cgroups.createArgv] at argv
    · rw [same, ← absent absence, Function.update_eq_self]
  · exact ⟨⟨fun start => law ▸ (lone start).update_false variant, trivial⟩, gone _ law⟩

/-- What holds of a run until it unwinds, wherever a fault left it. -/
structure Guarded (site : Site) (alive : σ → Variant → Bool) (premise : Prop) (runner : Runner)
    (state : σ) : Prop extends runner.WorksAt site where
  lone : premise → Lone (alive state)
  listed : premise → ∀ variant, alive state variant = true →
    .deleteCgroup variant ∈ runner.cleanup.pending

/-- What holds of a run that met no fault: no other cgroup than its own is there. -/
structure Tended (site : Site) (alive : σ → Variant → Bool) (premise : Prop) (target : Target)
    (at' : Milestone) (runner : Runner) (state : σ) : Prop extends runner.WorksAt site where
  own : premise → ∀ variant, alive state variant = true → variant = target.variant
  listed : premise → ∀ variant, alive state variant = true →
    .deleteCgroup variant ∈ runner.cleanup.pending
  claimed : at' ≠ .begun → at' ≠ .alone → .deleteCgroup target.variant ∈ runner.cleanup.pending
  cleared : at' = .cleared → alive state target.variant = false

theorem Tended.guarded (h : Tended site alive premise target here runner state) :
    Guarded site alive premise runner state where
  toWorksAt := h.toWorksAt
  lone start _ _ is is' := (h.own start _ is).trans (h.own start _ is').symm
  listed := h.listed

theorem Tended.move (h : Tended site alive premise target here runner state)
    (works : runner'.WorksAt site) (same : alive state' = alive state)
    (kept : ∀ reversal ∈ runner.cleanup.pending, reversal ∈ runner'.cleanup.pending)
    (claimed : there ≠ .begun → there ≠ .alone → here ≠ .begun ∧ here ≠ .alone)
    (cleared : there = .cleared → here = .cleared) :
    Tended site alive premise target there runner' state' where
  toWorksAt := works
  own := by rw [same]; exact h.own
  listed start variant is := kept _ (h.listed start variant (same ▸ is))
  claimed begun alone := kept _ (h.claimed (claimed begun alone).1 (claimed begun alone).2)
  cleared is := by rw [same]; exact h.cleared (cleared is)

theorem Guarded.move (h : Guarded site alive premise runner state) (works : runner'.WorksAt site)
    (same : alive state' = alive state)
    (kept : ∀ reversal ∈ runner.cleanup.pending, reversal ∈ runner'.cleanup.pending) :
    Guarded site alive premise runner' state' where
  toWorksAt := works
  lone := by rw [same]; exact h.lone
  listed start variant is := kept _ (h.listed start variant (same ▸ is))

theorem Tended.stay (h : Tended site alive premise target here runner state)
    (same : alive state' = alive state)
    (claimed : there ≠ .begun → there ≠ .alone → here ≠ .begun ∧ here ≠ .alone)
    (cleared : there = .cleared → here = .cleared) :
    Tended site alive premise target there runner state' :=
  h.move h.toWorksAt same (fun _ mem => mem) claimed cleared

theorem Guarded.stay (h : Guarded site alive premise runner state)
    (same : alive state' = alive state) : Guarded site alive premise runner state' :=
  h.move h.toWorksAt same fun _ mem => mem

theorem group_course (keeps : KeepsGroups host alive) :
    Course site (groupWatch host alive premise) workload target invocation
      (fun at' runner _ => Tended site alive premise target at' runner)
      (fun _ runner _ => Guarded site alive premise runner) where
  worksAt h := h.toWorksAt
  follows {at' runner runner' _ state} same h := by
    refine h.move (h.toWorksAt.agrees same.toAgrees) rfl ?_ (fun begun alone => ⟨begun, alone⟩) id
    rw [same.cleanup]
    exact fun _ mem => mem
  passing _ h := ⟨⟨h.guarded.lone, trivial⟩, h⟩
  skip {here there runner _ state} skips h := by
    cases skips <;> exact h.stay rfl (by decide) (by decide)
  registered {here reversal there runner _ state} registers _ h := by
    refine ⟨⟨h.guarded.lone, trivial⟩, ?_⟩
    have works : { runner with
        cleanup := runner.cleanup.register reversal : Runner }.WorksAt site :=
      { h.toWorksAt with }
    have kept : ∀ other ∈ runner.cleanup.pending,
        other ∈ (runner.cleanup.register reversal).pending := fun _ mem =>
      List.mem_append_left _ mem
    cases registers with
    | deletion =>
      exact
        { toWorksAt := works
          own := h.own
          listed := fun start variant is => kept _ (h.listed start variant is)
          claimed := fun _ _ => List.mem_append_right _ (.head _)
          cleared := nofun }
    | stop _ | restore => exact h.move works rfl kept (by decide) (by decide)
  call {here call excused wrap there runner _ state} calls h := by
    cases calls with
    | sync | dropCaches | swapOff | launch =>
      exact ensures_other keeps rfl h.guarded.lone fun _ _ same => .either
        (h.stay same (by decide) (by decide)) fun _ => h.guarded.stay same
    | stop _ =>
      exact ensures_other keeps (Call.isGroupTool_stop _) h.guarded.lone fun _ _ same => .either
        (h.stay same (by decide) (by decide)) fun _ => h.guarded.stay same
    | start _ _ =>
      exact ensures_other keeps (Call.isGroupTool_start _ _) h.guarded.lone fun _ _ same => .either
        (h.stay same (by decide) (by decide)) fun _ => h.guarded.stay same
    | clear =>
      refine ensures_removal keeps h.guarded.lone (fun state' gone => ?_) fun _ _ => h.guarded.stay
      have before {variant} (is : alive state' variant = true) : alive state variant = true := by
        rw [gone] at is
        exact (of_update_false is).2
      exact
        { toWorksAt := h.toWorksAt
          own := fun start variant is => h.own start variant (before is)
          listed := fun start variant is => h.listed start variant (before is)
          claimed := fun _ _ => h.claimed (by decide) (by decide)
          cleared := fun _ => by rw [gone, Function.update_self] }
  retry {here call what there runner _ state} retries h := by
    cases retries with
    | create =>
      have absent := h.cleared rfl
      have claimed := h.claimed (by decide) (by decide)
      refine .known (fun reply state' => Adds (alive state) target.variant reply (alive state'))
        (keeps.create target.variant state) ?_
      rintro (cause | output) state' law
      · refine ⟨⟨fun start => law ▸ h.guarded.lone start, ?_⟩, fun _ => ?_, h.guarded.stay law⟩
        · intro variant argv
          rw [law, ← Cgroups.createArgv_injective argv, absent]
        · exact h.stay law (by decide) (by decide)
      -- What was there before was of this run too, so the new cgroup is the only one.
      · have own : premise → ∀ variant, alive state' variant = true →
            variant = target.variant := by
          intro start variant is
          by_contra differs
          rw [law.2, Function.update_of_ne differs] at is
          exact differs (h.own start variant is)
        have created : Tended site alive premise target .created runner state' :=
          { toWorksAt := h.toWorksAt
            own
            listed := fun start variant is => own start variant is ▸ claimed
            claimed := fun _ _ => claimed
            cleared := nofun }
        exact ⟨⟨created.guarded.lone, trivial⟩, created⟩
    | limit =>
      refine ensures_other keeps rfl h.guarded.lone fun reply _ same => ?_
      rcases reply with cause | _
      · exact ⟨fun _ => h.stay same (by decide) (by decide), h.guarded.stay same⟩
      · exact h.stay same (by decide) (by decide)
  undescribed _ _ h := h.guarded
  occupied {here runner _ state} complete h := by
    refine ⟨⟨h.guarded.lone, trivial⟩, ?_⟩
    cases complete <;>
      exact h.move { h.toWorksAt with } rfl (fun _ mem => mem) (by decide) (by decide)
  abandoned h := ⟨⟨h.lone, trivial⟩, h.move { h.toWorksAt with } rfl fun _ mem => mem⟩
  smtOff {runner _ state} _ h := by
    refine ensures_other keeps rfl h.guarded.lone fun reply state' same => ?_
    rcases reply with cause | _
    · exact ⟨fun _ => h.stay same (by decide) (by decide), fun _ => h.guarded.stay same⟩
    · exact h.move { h.toWorksAt with } same (fun _ mem => mem) (by decide) (by decide)
  faulty _ h := h.guarded

/-- What holds while the reversals `todo` are still to come: unless one has failed, they
include the deletion of whatever is left. -/
structure Receding (site : Site) (alive : σ → Variant → Bool) (premise : Prop)
    (faults : List Fault) (todo : List Reversal) (runner : Runner) (state : σ) :
    Prop extends runner.WorksAt site where
  lone : premise → Lone (alive state)
  left : premise → faults = [] → ∀ variant, alive state variant = true →
    .deleteCgroup variant ∈ todo

/-- What holds after an unwinding. -/
structure Receded (site : Site) (alive : σ → Variant → Bool) (premise : Prop)
    (result : Except Fault Unit) (runner : Runner) (state : σ) :
    Prop extends runner.WorksAt site where
  lone : premise → Lone (alive state)
  vacant : premise → result = .ok () → Vacant (alive state)

variable {faults : List Fault} {reversal : Reversal} {todo : List Reversal}

theorem Receding.failed (h : Receding site alive premise faults (reversal :: todo) runner state)
    (fault : Fault) (same : alive state' = alive state) :
    Receding site alive premise (faults ++ [fault]) todo runner state' where
  toWorksAt := h.toWorksAt
  lone := by rw [same]; exact h.lone
  left _ none := absurd none (by simp)

theorem Receding.passed (h : Receding site alive premise faults (reversal :: todo) runner state)
    (works : runner'.WorksAt site) (same : alive state' = alive state)
    (other : ∀ variant, reversal ≠ .deleteCgroup variant) :
    Receding site alive premise faults todo runner' state' where
  toWorksAt := works
  lone := by rw [same]; exact h.lone
  left start none variant is :=
    List.mem_of_ne_of_mem (other variant).symm (h.left start none variant (same ▸ is))

theorem Receding.deleted {variant : Variant}
    (h : Receding site alive premise faults (.deleteCgroup variant :: todo) runner state)
    (gone : alive state' = Function.update (alive state) variant false) :
    Receding site alive premise faults todo runner state' where
  toWorksAt := h.toWorksAt
  lone start := by rw [gone]; exact (h.lone start).update_false variant
  left start none other is := by
    rw [gone] at is
    obtain ⟨differs, was⟩ := of_update_false is
    refine List.mem_of_ne_of_mem ?_ (h.left start none other was)
    exact fun same => differs (Reversal.deleteCgroup.inj same)

theorem group_unwinding (keeps : KeepsGroups host alive) (runner : Runner) :
    Unwinding site (groupWatch host alive premise) (fun faults todo machine _ =>
      Receding site alive premise faults todo { runner with machine }) where
  control h := h.smtControl
  call {faults todo machine _ state} reversal _ h := by
    refine ⟨⟨h.lone, trivial⟩, ?_⟩
    cases reversal with
    | enableSmt =>
      exact ensures_other keeps rfl h.lone fun _ _ same => .either
        (h.passed { h.toWorksAt with } same nofun) fun _ => h.failed _ same
    | deleteCgroup variant =>
      exact ensures_removal keeps h.lone (fun _ => h.deleted) fun _ _ => h.failed _
    | stopOptimizer =>
      exact ensures_other keeps (Call.isGroupTool_stop _) h.lone fun _ _ same => .either
        (h.passed h.toWorksAt same nofun) fun _ => h.failed _ same
  settled _ h := ⟨⟨h.lone, trivial⟩, h.passed h.toWorksAt rfl nofun⟩

theorem group_closes (keeps : KeepsGroups host alive) :
    Closes (groupWatch host alive premise)
      (fun result runner _ => Receded site alive premise result runner)
      (fun runner _ => Guarded site alive premise runner) where
  enter _ _ h := ⟨⟨h.lone, trivial⟩, h.move { h.toWorksAt with } rfl fun _ mem => mem⟩
  leave _ _ h := ⟨⟨h.lone, trivial⟩, { h.toWorksAt with }, h.lone, h.vacant⟩
  tearDown {runner _ state} h := by
    refine Watch.Ensures.mono ((group_unwinding keeps runner).tearDown
      (fun faults runner _ => Receding site alive premise faults [] runner) h.tools ?_ ?_) ?_
    · refine ⟨⟨h.lone, trivial⟩, h.toWorksAt, h.lone, fun start _ variant is => ?_⟩
      exact List.mem_reverse.mpr (h.listed start variant is)
    · exact fun _ _ _ _ h => ⟨⟨h.lone, trivial⟩, { h.toWorksAt with }, h.lone, h.left⟩
    · rintro ⟨result, runner⟩ _ state ⟨faults, rfl, h⟩
      refine ⟨h.toWorksAt, h.lone, fun start ok variant => ?_⟩
      by_contra is
      have listed := h.left start (verdict_ok ok) variant (by simpa using is)
      exact List.not_mem_nil listed

theorem group_conduct (keeps : KeepsGroups host alive) (record : Record) :
    Conduct site (groupWatch host alive premise) workload record
      (fun runner _ => Receded site alive premise (.ok ()) runner)
      (fun runner _ => Receded site alive premise (.ok ()) runner)
      (fun target at' runner _ => Tended site alive premise target at' runner)
      (fun _ runner _ => Guarded site alive premise runner) where
  begun runner _ state h :=
    ⟨⟨h.lone, trivial⟩, ⟨h.lone, trivial⟩, { h.toWorksAt with }, h.lone, h.vacant⟩
  refused _ h := by
    refine ⟨h.toWorksAt, h.lone, fun start variant is => ?_⟩
    rw [h.vacant start rfl variant] at is
    cases is
  start {target runner _ state} h := by
    have none (start : premise) (variant : Variant) : alive state variant ≠ true := by
      rw [h.vacant start rfl variant]
      exact Bool.false_ne_true
    exact ⟨h.toWorksAt, fun start variant is => absurd is (none start variant),
      fun start variant is => absurd is (none start variant), fun begun => absurd rfl begun, nofun⟩
  course _ _ := group_course keeps

theorem group_relay (keeps : KeepsGroups host alive) (site : Site) :
    Relay (groupWatch host alive premise) workload
      (fun _ runner _ => Receded site alive premise (.ok ()) runner)
      (fun _ _ state => premise → Lone (alive state)) where
  run {record _ _ _ _} h := by
    refine Watch.Ensures.mono ((group_conduct keeps record).run (group_closes keeps)
      (fun _ _ _ _ h => h.guarded) (fun _ _ _ _ h => h) h) fun _ _ _ h => ?_
    refine h.mono (fun _ _ _ _ => trivial) fun result _ _ _ h => ⟨h.lone, ?_⟩
    rintro rfl
    exact h
  ended h := h.lone
  restore h _ := ensures_other keeps rfl h fun _ _ _ => trivial

/-- Nothing is asked of the runner, which may have reversals pending from before. -/
theorem at_most_one_group (keeps : KeepsGroups host alive) (runner : Runner)
    (workload : Workload) (records : List Record) (measurements : List Measurement) (state : σ) :
    let series := (runner.runSeries workload records measurements).execute host state
    (Vacant (alive state) →
      (∀ before after, series.history = before ++ after →
        Lone (alive (host.follow state before))) ∧ Lone (alive series.host)) ∧
    ∀ before variant reply after,
      series.history = before ++ .called (.run (Cgroups.createArgv variant)) reply :: after →
      alive (host.follow state before) variant = false := by
  intro series
  have ensures : (groupWatch host alive (Vacant (alive state))).Ensures
      (runner.runSeries workload records measurements) () state fun _ _ _ => True :=
    (group_relay keeps runner.site).runSeries records measurements
      ⟨runner.worksAt_site, Vacant.lone, fun vacant _ => vacant⟩
  constructor
  · intro vacant
    have always : ∀ before after, series.history = before ++ after →
        Lone (alive (host.follow state before)) := by
      intro before after cut
      rcases List.eq_nil_or_concat before with rfl | ⟨earlier, last, rfl⟩
      · exact vacant.lone
      · rw [List.concat_eq_append] at cut ⊢
        exact (ensures.reached (cut.trans (List.append_assoc earlier [last] after))).1 vacant
    refine ⟨always, ?_⟩
    rw [show series.host = _ from Procedure.execute_host host _ state]
    exact always _ [] (List.append_nil _).symm
  · intro before variant reply after split
    have law := keeps.create variant (host.follow state before)
    rw [Procedure.answered split] at law
    cases reply with
    | ok output => exact law.1
    -- A refused creation changed nothing, so what the watch saw after it was so before.
    | error cause =>
      have absent : alive (host.follow state (before ++ [_])) variant = false :=
        (ensures.reached split).2 variant rfl
      rw [host.follow_append] at absent
      exact (congrFun law variant).symm.trans absent

end

/-! A host on which a cgroup is busy. -/

def Footprint.groups (footprint : Footprint) (variant : Variant) : Bool :=
  (footprint.cgroup variant).isSome

theorem Footprint.groups_put (footprint : Footprint) (variant : Variant)
    (cgroup : Option (Option String)) :
    (footprint.put variant cgroup).groups =
      Function.update footprint.groups variant cgroup.isSome := by
  funext other
  by_cases same : other = variant
  · subst same
    simp [groups, put]
  · simp [groups, put, Function.update_of_ne same]

theorem Footprint.groups_run {site : Site} {argv : List String}
    (other : (Call.run argv).isGroupTool = false) (footprint : Footprint) :
    (footprint.run site argv).2.groups = footprint.groups := by
  have apart (variant : Variant) :
      argv ≠ Cgroups.createArgv variant ∧ argv ≠ Cgroups.deleteArgv variant := by
    cases variant <;> simp_all [Call.isGroupTool, Variant.all]
  rw [Schedule.run_apart (fun variant => (apart variant).1) fun variant => (apart variant).2]
  unfold Footprint.stop
  split
  · split <;> rfl
  · split <;> rfl

theorem Schedule.keepsGroups {site : Site} (schedule : Schedule site) :
    KeepsGroups schedule.host fun state => state.2.groups where
  create variant state := by
    have law := schedule.faithful.create variant state
    revert law
    rcases (schedule.host.answer state (.run (Cgroups.createArgv variant))).1 with cause | output
    · exact congrArg Footprint.groups
    · rintro ⟨absent, after⟩
      exact ⟨by simp [Footprint.groups, absent], after ▸ Footprint.groups_put _ _ _⟩
  delete variant state := by
    have law := schedule.faithful.delete variant state
    revert law
    rcases (schedule.host.answer state (.run (Cgroups.deleteArgv variant))).1 with cause | output
    · rintro ⟨after, absent⟩
      exact ⟨congrArg Footprint.groups after, fun gone => by simp [Footprint.groups, absent gone]⟩
    · exact fun after => after ▸ Footprint.groups_put _ _ _
  other call other := by
    have obeys : schedule.host.Obeys Prod.snd call fun before _ after =>
        after.groups = before.groups := by
      refine host_obeys (fun _ _ _ _ => rfl) fun time footprint => ?_
      cases call with
      | run argv => exact Footprint.groups_run other footprint
      | write path text =>
        funext variant
        by_cases limit : path = site.tools.cgroups.limitPath variant <;>
          simp [work, Footprint.groups, Footprint.write, limit]
      | _ => rfl
    exact obeys

namespace Sample

/-- Once the optimized run has a cgroup, that cgroup cannot be deleted. -/
def busy : Schedule site where
  force time call :=
    if time > 3 ∧ call = .run (Cgroups.deleteArgv .damon) then
      some (.exited "cgdelete -g memory:damon_test" (some 1) "cgdelete: Device or resource busy")
    else none
  never_absent time variant cause forced := by
    split at forced
    · obtain rfl := Option.some.inj forced
      decide
    · cases forced
  never_stopped time cause forced := by
    rw [if_neg (fun both => absurd both.2 (by decide))] at forced
    cases forced

def onBusy : Execution (Nat × Footprint) (SeriesResult × Runner) :=
  ((site.fresh .goOn .on).runSeries workload [record .damon, record .baseline] []).execute
    busy.host (0, start)

end Sample

theorem at_most_one_group_on_busy :
    Sample.onBusy.host.2.groups .damon = true ∧ Lone Sample.onBusy.host.2.groups ∧
      ∀ before reply after,
        Sample.onBusy.history =
          before ++ .called (.run (Cgroups.createArgv .damon)) reply :: after →
        (Sample.busy.host.follow (0, Sample.start) before).2.groups .damon = false := by
  have series := at_most_one_group Sample.busy.keepsGroups (Sample.site.fresh .goOn .on)
    Sample.workload [Sample.record .damon, Sample.record .baseline] [] (0, Sample.start)
  exact ⟨by decide +kernel, (series.1 fun _ => rfl).2, fun before => series.2 before .damon⟩

end CgroupBench
