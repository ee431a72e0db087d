import CgroupBench.Proofs.Configuration
import CgroupBench.Proofs.Scene
import CgroupBench.Simulation.ScriptedHost

/-!
# What a run touches

A run of a record that names a variant works on the cgroup of that variant and on two files of
the machine, whatever fails on the way: its reversals are carried in the stack, not read from
the record, but with nothing pending at its beginning they are its own. It reads nothing. So
what else there is on the host, groups with their limits and files alike, is the same after it.
-/
namespace CgroupBench

variable {σ : Type}

/-! Where the path of a limit leads. -/

namespace Path

variable {name : String}

theorem toList_join (path name : String) :
    (join path name).toList = path.toList ++ name.toList ∨
      (join path name).toList = path.toList ++ '/' :: name.toList := by
  rw [join]
  split
  · exact .inl (by simp)
  · exact .inl (by simp)
  · exact .inr (by simp)

/-- The last piece of a path is the name that was joined to it. -/
theorem pieces_join (path : String) (plain : '/' ∉ name.toList) :
    ∃ front, pieces (join path name) = front ++ [name] := by
  have last : (name.toList.splitOn '/').map String.ofList = [name] := by
    simp [List.splitOn_eq_singleton plain]
  rw [join]
  split
  next empty =>
    have empty : path.toList = [] := List.getLast?_eq_none_iff.mp empty
    exact ⟨[], by simp [pieces, empty, last]⟩
  next closed =>
    obtain ⟨front, ends⟩ := List.getLast?_eq_some_iff.mp closed
    refine ⟨(front.splitOn '/').map .ofList, ?_⟩
    simp [pieces, ends, List.splitOn_append_cons_self, last]
  next =>
    refine ⟨pieces path, ?_⟩
    simp [pieces, List.splitOn_append_cons_self, last]

/-- A path that does not end in a separator keeps its pieces. -/
theorem pieces_join_of_open {path : String} {last : Char} (plain : '/' ∉ name.toList)
    (ends : path.toList.getLast? = some last) (opened : last ≠ '/') :
    pieces (join path name) = pieces path ++ [name] := by
  have piece : (name.toList.splitOn '/').map String.ofList = [name] := by
    simp [List.splitOn_eq_singleton plain]
  rw [join, ends]
  split
  next none => cases none
  next closed => exact absurd (Option.some.inj closed) opened
  next => simp [pieces, List.splitOn_append_cons_self, piece]

end Path

/-- In the host in memory the path of a limit belongs to the variant, whatever the root is. -/
theorem Simulation.limitOwner?_limitPath (cgroups : Cgroups) (variant : Variant) :
    limitOwner? (cgroups.limitPath variant) = some variant.label := by
  have plain : '/' ∉ variant.label.toList := by cases variant <;> decide
  have ends : (Path.join cgroups.root variant.label).toList.getLast? = some 't' := by
    have label : variant.label.toList.getLast? = some 't' := by cases variant <;> decide
    rcases Path.toList_join cgroups.root variant.label with joined | joined <;>
      simp [joined, List.getLast?_append, List.getLast?_cons, label]
  obtain ⟨front, pieces⟩ := Path.pieces_join cgroups.root plain
  rw [limitOwner?, Cgroups.limitPath, Path.pieces_join_of_open (by decide) ends (by decide), pieces]
  simp

/-- The calls with which a run of this variant may touch the host. -/
inductive Site.Touches (site : Site) (variant : Variant) : Call → Prop where
  | sync : site.Touches variant (.run ["sync"])
  | swapOff : site.Touches variant (.run ["swapoff", "-a"])
  | start (descriptor : String) : site.tools.optimizer.descriptor = some descriptor →
    site.Touches variant (.run (site.tools.optimizer.startArgv descriptor))
  | stop : site.Touches variant (.run site.tools.optimizer.stopArgv)
  | create : site.Touches variant (.run (Cgroups.createArgv variant))
  | delete : site.Touches variant (.run (Cgroups.deleteArgv variant))
  | limit (text : String) :
    site.Touches variant (.write (site.tools.cgroups.limitPath variant) text)
  | dropCaches : site.Touches variant (.write site.dropCaches "3\n")
  | smt (text : String) : site.Touches variant (.write site.smtControl text)
  | launch (invocation : Invocation) : site.Touches variant (.workload variant.label invocation)

/-- A watch that lets a run touch nothing else. -/
def Watch.guarding (host : Host σ) (site : Site) (variant : Variant) : Watch σ Unit :=
  ⟨host, fun _ _ => (), fun _ event _ =>
    ∀ call reply, event = .called call reply → site.Touches variant call⟩

/-- The runner is about to delete no cgroup but that of this variant. -/
structure Runner.Owns (site : Site) (variant : Variant) (runner : Runner) : Prop
    extends runner.WorksAt site where
  pending : ∀ other, .deleteCgroup other ∈ runner.cleanup.pending → other = variant

section

variable {site : Site} {variant : Variant} {host : Host σ} {runner runner' : Runner}

theorem Runner.Owns.agrees (owns : runner.Owns site variant) (same : runner.Agrees runner') :
    runner'.Owns site variant where
  toWorksAt := owns.toWorksAt.agrees same
  pending other mem := owns.pending other (same.cleanup ▸ mem)

theorem Runner.Owns.register (owns : runner.Owns site variant) {reversal : Reversal}
    (own : ∀ other, reversal = .deleteCgroup other → other = variant) :
    ({ runner with cleanup := runner.cleanup.register reversal } : Runner).Owns site variant where
  toWorksAt := { owns.toWorksAt with }
  pending other mem := by
    rcases List.mem_append.mp mem with mem | mem
    · exact owns.pending other mem
    · exact own other (List.mem_singleton.mp mem).symm

theorem guard_note {post : Unit → σ → Prop} {note : Note} {state : σ} (h : post () state) :
    (Watch.guarding host site variant).Ensures (Procedure.leave note) () state fun _ => post :=
  ⟨nofun, h⟩

theorem guard_call {call : Call} {post : call.Reply → Unit → σ → Prop} {state : σ}
    (touches : site.Touches variant call) (h : ∀ reply state, post reply () state) :
    (Watch.guarding host site variant).Ensures (.ask call .finish) () state post := by
  refine .ask fun reply state _ => ⟨?_, h reply state⟩
  rintro _ _ ⟨⟩
  exact touches

end

namespace Milestone

variable {site : Site} {target : Target} {benchmark what : String} {invocation : Invocation}
  {here there : Milestone} {call : Call}

theorem Calls.touches {excused : CallError → Bool} {wrap : CallError → Fault}
    (calls : Calls site target benchmark invocation here call excused wrap there) :
    site.Touches target.variant call := by
  cases calls with
  | sync => exact .sync
  | dropCaches => exact .dropCaches
  | swapOff => exact .swapOff
  | stop => exact .stop
  | clear => exact .delete
  | start described => exact .start _ described
  | launch => exact .launch invocation

theorem Retries.touches (retries : Retries site target here call what there) :
    site.Touches target.variant call := by
  cases retries with
  | create => exact .create
  | limit => exact .limit _

theorem Registers.own {reversal : Reversal} (registers : Registers target here reversal there)
    (other : Variant) (deletes : reversal = .deleteCgroup other) : other = target.variant := by
  cases registers with
  | deletion => exact (Reversal.deleteCgroup.inj deletes).symm
  | stop | restore => cases deletes

end Milestone

theorem Reversal.touches {site : Site} {variant : Variant} {reversal : Reversal}
    (own : ∀ other, reversal = .deleteCgroup other → other = variant) :
    site.Touches variant (reversal.call site) := by
  cases reversal with
  | enableSmt => exact .smt _
  | deleteCgroup other => exact own other rfl ▸ .delete
  | stopOptimizer => exact .stop

section

variable {site : Site} {variant : Variant} {workload : Workload} {record : Record}

theorem own_course (host : Host σ) {target : Target} (mine : target.variant = variant)
    (invocation : Invocation) :
    Course site (Watch.guarding host site variant) workload target invocation
      (fun _ runner _ _ => runner.Owns site variant)
      (fun _ runner _ _ => runner.Owns site variant) where
  worksAt owns := owns.toWorksAt
  follows same owns := owns.agrees same.toAgrees
  passing _ owns := guard_note owns
  skip _ owns := owns
  registered registers _ owns :=
    guard_note (owns.register fun other deletes => (registers.own other deletes).trans mine)
  call calls owns :=
    guard_call (mine ▸ calls.touches) fun _ _ => .either owns fun _ => owns
  retry retries owns := by
    refine guard_call (mine ▸ retries.touches) fun reply _ => ?_
    cases reply with
    | ok _ => exact owns
    | error _ => exact ⟨fun _ => owns, owns⟩
  undescribed _ _ owns := owns
  occupied _ owns := guard_note (owns.agrees (.occupied _ _))
  abandoned owns := guard_note (owns.agrees (.occupied _ _))
  smtOff _ owns := by
    refine guard_call (.smt _) fun reply _ => ?_
    cases reply with
    | ok _ => exact { owns with }
    | error _ => exact ⟨fun _ => owns, fun _ => owns⟩
  faulty _ owns := owns

theorem own_conduct (host : Host σ)
    (named : record.get? Key.cgroupName = some (.text variant.label)) :
    Conduct site (Watch.guarding host site variant) workload record
      (fun runner _ _ => runner.Owns site variant) (fun runner _ _ => runner.Owns site variant)
      (fun _ _ runner _ _ => runner.Owns site variant)
      (fun _ runner _ _ => runner.Owns site variant) where
  begun _ _ _ owns := ⟨nofun, nofun, { owns with }⟩
  refused _ owns := owns
  start owns := owns
  course {target _} resolved _ := by
    obtain ⟨found, -, -⟩ := Target.ofRecord_eq_ok.mp resolved
    rw [named] at found
    have mine := Variant.label_injective (Value.text.inj (Option.some.inj found))
    exact own_course host mine.symm _

/-- What is still to be carried out deletes no cgroup but that of the variant. -/
theorem own_unwinding (host : Host σ) (runner : Runner) :
    Unwinding site (Watch.guarding host site variant) fun _ todo machine _ _ =>
      ({ runner with machine } : Runner).WorksAt site ∧
        ∀ other, .deleteCgroup other ∈ todo → other = variant where
  control h := h.1.smtControl
  call {_ todo _ _ _} reversal _ h := by
    obtain ⟨works, own⟩ := h
    have rest : ∀ other, Reversal.deleteCgroup other ∈ todo → other = variant :=
      fun other mem => own other (.tail _ mem)
    have mine : ∀ other, reversal = .deleteCgroup other → other = variant :=
      fun other deletes => own other (deletes ▸ .head _)
    refine ⟨nofun, guard_call (Reversal.touches mine) fun _ _ => ?_⟩
    exact .either ⟨works.settle reversal, rest⟩ fun _ => ⟨works, rest⟩
  settled _ h := guard_note ⟨h.1, fun other mem => h.2 other (.tail _ mem)⟩

theorem own_closes (host : Host σ) :
    Closes (Watch.guarding host site variant) (fun _ _ _ _ => True)
      (fun runner _ _ => runner.Owns site variant) where
  enter _ _ owns := ⟨nofun, { owns with }⟩
  tearDown {runner _ _} owns := by
    have own : ∀ other, .deleteCgroup other ∈ runner.cleanup.pending.reverse → other = variant :=
      fun other mem => owns.pending other (List.mem_reverse.mp mem)
    refine ((own_unwinding host runner).tearDown (fun _ _ _ _ => True) owns.tools
      (guard_note ⟨owns.toWorksAt, own⟩) fun _ _ _ _ _ => guard_note trivial).mono ?_
    exact fun _ _ _ _ => trivial
  leave _ _ _ := ⟨nofun, trivial⟩

/-- Each call of a run is one of its own. -/
theorem run_touches (host : Host σ) {runner : Runner}
    (named : record.get? Key.cgroupName = some (.text variant.label))
    (idle : runner.cleanup.pending = []) {state : σ} {call : Call} {reply : call.Reply}
    (made : .called call reply ∈ ((runner.run workload record).execute host state).history) :
    runner.site.Touches variant call := by
  have owns : runner.Owns runner.site variant :=
    ⟨runner.worksAt_site, by simp [idle]⟩
  have guarded : (Watch.guarding host runner.site variant).Ensures (runner.run workload record) ()
      state _ :=
    (own_conduct host named).run (own_closes host) (fun _ _ _ _ owns => owns)
      (fun _ _ _ _ owns => owns) owns
  obtain ⟨before, after, split⟩ := List.append_of_mem made
  exact guarded.reached split call reply rfl

end

/-! What else there is on a host. -/

namespace Scene

/-- Nothing differs but the cgroup of the variant and the two files of the machine. -/
structure Beside (site : Site) (variant : Variant) (before after : Scene) : Prop where
  cgroup : ∀ name, name ≠ variant.label → after.cgroup name = before.cgroup name
  file : ∀ path, path ≠ site.smtControl → path ≠ site.dropCaches →
    after.file path = before.file path

variable {site : Site} {variant : Variant}

theorem Beside.refl (scene : Scene) : Beside site variant scene scene :=
  ⟨fun _ _ => rfl, fun _ _ _ => rfl⟩

theorem Beside.trans {first second third : Scene} (head : Beside site variant first second)
    (rest : Beside site variant second third) : Beside site variant first third where
  cgroup name other := (rest.cgroup name other).trans (head.cgroup name other)
  file path noSmt noCaches :=
    (rest.file path noSmt noCaches).trans (head.file path noSmt noCaches)

end Scene

/-- What each call leaves alone, all calls of a history leave alone. -/
theorem Host.follow_beside {host : Host σ} (see : σ → Scene) {site : Site} {variant : Variant}
    (step : ∀ state call, site.Touches variant call →
      Scene.Beside site variant (see state) (see (host.answer state call).2))
    {history : List Event}
    (touches : ∀ call reply, .called call reply ∈ history → site.Touches variant call) (state : σ) :
    Scene.Beside site variant (see state) (see (host.follow state history)) := by
  induction history generalizing state with
  | nil => exact .refl _
  | cons event rest ih =>
    have later : ∀ call reply, .called call reply ∈ rest → site.Touches variant call :=
      fun call reply mem => touches call reply (.tail _ mem)
    cases event with
    | noted note => exact ih later state
    | called call reply => exact (step state call (touches call reply (.head _))).trans (ih later _)

namespace Simulation

namespace HostState

variable {site : Site} {variant : Variant}

theorem scene_assign_cgroup (state : HostState) (limit : Option String) :
    Scene.Beside site variant state.scene
      { state with cgroups := assign variant.label limit state.cgroups : HostState }.scene where
  cgroup _ other := (lookup_assign ..).trans (if_neg other)
  file _ _ _ := rfl

theorem scene_assign_file (state : HostState) {path : String} (text : String)
    (own : path = site.smtControl ∨ path = site.dropCaches) :
    Scene.Beside site variant state.scene
      { state with files := assign path text state.files : HostState }.scene where
  cgroup _ _ := rfl
  file other noSmt noCaches := by
    refine (lookup_assign ..).trans (if_neg ?_)
    rintro rfl
    exact own.elim noSmt noCaches

theorem run_start (optimizer : Optimizer) (descriptor : String) (state : HostState) :
    state.run (optimizer.startArgv descriptor) = (.ok {}, { state with optimizer := true }) := by
  simp [run, Optimizer.startArgv]

theorem run_create (variant : Variant) (state : HostState) :
    state.run (Cgroups.createArgv variant) =
      state.createCgroup (Cgroups.createArgv variant) variant.label := by
  cases variant <;> rfl

theorem answer_beside (plainSmt : limitOwner? site.smtControl = none)
    (plainCaches : limitOwner? site.dropCaches = none) (state : HostState) {call : Call}
    (touches : site.Touches variant call) :
    Scene.Beside site variant state.scene (state.answer call).2.scene := by
  cases touches with
  | sync => exact .refl _
  | swapOff => exact ⟨fun _ _ => rfl, fun _ _ _ => rfl⟩
  | start descriptor =>
    show Scene.Beside _ _ _ (state.run _).2.scene
    rw [run_start]
    exact ⟨fun _ _ => rfl, fun _ _ _ => rfl⟩
  | stop =>
    show Scene.Beside _ _ _ (state.run _).2.scene
    rw [run_stop, stopOptimizer]
    split <;> exact ⟨fun _ _ => rfl, fun _ _ _ => rfl⟩
  | create =>
    show Scene.Beside _ _ _ (state.run _).2.scene
    rw [run_create, createCgroup]
    split
    · exact .refl _
    · exact scene_assign_cgroup state none
  | delete =>
    show Scene.Beside _ _ _ (state.run _).2.scene
    rw [run_delete, deleteCgroup]
    split
    · exact .refl _
    · split
      · exact .refl _
      · exact ⟨fun name other => (lookup_remove ..).trans (if_neg other), fun _ _ _ => rfl⟩
  | limit text =>
    show Scene.Beside _ _ _ (state.write _ text).2.scene
    rw [HostState.write, limitOwner?_limitPath]
    dsimp only
    split
    · exact scene_assign_cgroup state (some text)
    · exact .refl _
  | dropCaches =>
    show Scene.Beside _ _ _ (state.write _ _).2.scene
    rw [scene_write plainCaches]
    exact scene_assign_file state _ (.inr rfl)
  | smt text =>
    show Scene.Beside _ _ _ (state.write _ text).2.scene
    rw [scene_write plainSmt]
    exact scene_assign_file state _ (.inl rfl)
  | launch invocation => exact .refl _

end HostState

/-- A script, or failures forced on the host, keep a call from what it does but make it do
nothing else. -/
theorem ScriptedHost.answer_beside (site : Site) {variant : Variant}
    (plainSmt : limitOwner? site.smtControl = none)
    (plainCaches : limitOwner? site.dropCaches = none) (force : Nat → Call → Option CallError)
    (now : Nat × ScriptedHost) {call : Call} (touches : site.Touches variant call) :
    Scene.Beside site variant now.2.state.scene
      ((ScriptedHost.host.faltering force).answer now call).2.2.state.scene := by
  obtain ⟨time, state, script⟩ := now
  rw [Host.faltering]
  cases forced : force time call with
  | some cause => simp only [forced]; exact .refl _
  | none =>
    simp only [forced, ScriptedHost.host, ScriptedHost.answer]
    split
    · exact .refl _
    · exact state.answer_beside plainSmt plainCaches touches

end Simulation

theorem run_beside {record : Record} {variant : Variant} {runner : Runner} (workload : Workload)
    (named : record.get? Key.cgroupName = some (.text variant.label))
    (idle : runner.cleanup.pending = [])
    (plainSmt : Simulation.limitOwner? runner.machine.smtControl = none)
    (plainCaches : Simulation.limitOwner? runner.machine.dropCaches = none)
    (force : Nat → Call → Option CallError) (now : Nat × Simulation.ScriptedHost) :
    let host := Simulation.ScriptedHost.host.faltering force
    Scene.Beside runner.site variant now.2.state.scene
      ((runner.run workload record).execute host now).host.2.state.scene := by
  intro host
  have touches : ∀ call reply,
      .called call reply ∈ ((runner.run workload record).execute host now).history →
        runner.site.Touches variant call :=
    fun _ _ made => run_touches host named idle made
  rw [Procedure.execute_host]
  refine Host.follow_beside (fun now => now.2.state.scene) ?_ touches now
  intro now call touches
  exact Simulation.ScriptedHost.answer_beside runner.site plainSmt plainCaches force now touches

/-- A run makes no calls but its own, whatever it is answered. On the host in memory, whatever a
script or forced failures make of it, every other group with its limit and every other file is
the same after the run. -/
theorem run_touches_its_own (host : Host σ) (workload : Workload) (record : Record)
    (variant : Variant) (named : record.get? Key.cgroupName = some (.text variant.label))
    (runner : Runner) (idle : runner.cleanup.pending = []) (state : σ) :
    let run := runner.run workload record
    let smtControl := runner.machine.smtControl
    let dropCaches := runner.machine.dropCaches
    (∀ call reply, .called call reply ∈ (run.execute host state).history →
        runner.site.Touches variant call) ∧
      (Simulation.limitOwner? smtControl = none → Simulation.limitOwner? dropCaches = none →
        ∀ (force : Nat → Call → Option CallError) (time : Nat)
          (simulated : Simulation.ScriptedHost),
          let ended := run.execute (Simulation.ScriptedHost.host.faltering force) (time, simulated)
          let before := simulated.state.scene
          let after := ended.host.2.state.scene
          (∀ name, name ≠ variant.label → after.cgroup name = before.cgroup name) ∧
            ∀ path, path ≠ smtControl → path ≠ dropCaches →
              after.file path = before.file path) := by
  intro run smtControl dropCaches
  refine ⟨fun call reply made => run_touches host named idle made, ?_⟩
  intro plainSmt plainCaches force time simulated ended before after
  have beside : Scene.Beside runner.site variant before after :=
    run_beside workload named idle plainSmt plainCaches force (time, simulated)
  exact ⟨beside.cgroup, beside.file⟩

/-- A host with a group and a file of others. What an earlier run left in the cgroup of a variant
keeps it from being deleted, though a script lets the first deletion pass for done. -/
def Sample.shared : Simulation.ScriptedHost where
  state := {
    files := [(Machine.defaultSmtControl, "on\n"), ("/etc/hosts", "localhost")]
    cgroups := [("system", some "max"), (Variant.damon.label, some "1\n")]
    busy := [Variant.damon.label] }
  script := [{ start := "run cgdelete", action := .succeed {} }]

/-- The cgroup cannot be created over the one that was left, nor that one deleted in the end. -/
def Sample.sharing : Execution (Nat × Simulation.ScriptedHost) (RunEnd × Runner) :=
  ((Sample.site.fresh .abort .on).run Sample.workload (Sample.record .damon)).execute
    (Simulation.ScriptedHost.host.faltering Sample.schedule.force) (1, Sample.shared)

theorem run_touches_its_own_on_shared :
    Sample.sharing.value.1.fault?.isSome = true ∧
      Sample.sharing.host.2.state.scene.cgroup "system" =
        Sample.shared.state.scene.cgroup "system" ∧
      Sample.sharing.host.2.state.scene.file "/etc/hosts" =
        Sample.shared.state.scene.file "/etc/hosts" := by
  have failed : Sample.sharing.value.1.fault?.isSome = true := by decide +kernel
  have named : (Sample.record .damon).get? Key.cgroupName = some (.text Variant.damon.label) := rfl
  obtain ⟨-, beside⟩ := run_touches_its_own Sample.schedule.host Sample.workload
    (Sample.record .damon) .damon named (Sample.site.fresh .abort .on) rfl (0, Sample.start)
  obtain ⟨groups, files⟩ := beside (by decide +kernel) (by decide +kernel) Sample.schedule.force 1
    Sample.shared
  exact ⟨failed, groups "system" (by decide), files "/etc/hosts" (by decide) (by decide)⟩

end CgroupBench
