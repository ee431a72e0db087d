import CgroupBench.Proofs.FaithfulHost
import CgroupBench.Simulation.HostState

/-!
# A host with forced failures

The host is nothing but its footprint and a clock that counts the calls. A schedule says which
calls are forced to fail, and how; every other call does what its tool is for. Such a host is
faithful whatever the schedule, and with nothing forced it hinders no reversal.
-/
namespace CgroupBench

structure Schedule (site : Site) where
  /-- The error that a call is made to fail with at a time. -/
  force : Nat → Call → Option CallError := fun _ _ => none
  /-- How workloads go. -/
  timed : Nat → Timed := fun _ => ⟨{}, ⟨1, 0⟩⟩
  never_absent : ∀ time variant cause,
    force time (.run (Cgroups.deleteArgv variant)) = some cause →
      cause.saysAbsent = false := by simp
  never_stopped : ∀ time cause,
    force time (.run site.tools.optimizer.stopArgv) = some cause → cause.isExit = false := by simp

namespace Footprint

open Simulation.HostState (refuse)

def create (variant : Variant) (footprint : Footprint) : Except CallError Output × Footprint :=
  match footprint.cgroup variant with
  | some _ => (refuse (Cgroups.createArgv variant) "cgcreate: File exists", footprint)
  | none => (.ok {}, footprint.put variant (some none))

def delete (variant : Variant) (footprint : Footprint) : Except CallError Output × Footprint :=
  match footprint.cgroup variant with
  | some _ => (.ok {}, footprint.put variant none)
  | none => (refuse (Cgroups.deleteArgv variant) "cgdelete: No such file or directory", footprint)

def stop (argv : List String) (footprint : Footprint) : Except CallError Output × Footprint :=
  if footprint.optimizer then (.ok {}, { footprint with optimizer := false })
  else (refuse argv "no running kdamond", footprint)

def read (site : Site) (path : String) (footprint : Footprint) : Except CallError String :=
  match if path = site.smtControl then footprint.smt else none with
  | some text => .ok text
  | none => .error (.access "read" path (.numbered 2))

/-- The cgroup tools are told by their whole command line, the optimizer by its argument. -/
def run (site : Site) (argv : List String) (footprint : Footprint) :
    Except CallError Output × Footprint :=
  match Variant.all.find? (Cgroups.createArgv · == argv) with
  | some variant => footprint.create variant
  | none =>
    match Variant.all.find? (Cgroups.deleteArgv · == argv) with
    | some variant => footprint.delete variant
    | none =>
      if argv = site.tools.optimizer.stopArgv then footprint.stop argv
      else if argv.take 2 = [site.tools.optimizer.program, "start"] then
        (.ok {}, { footprint with optimizer := true })
      else (.ok {}, footprint)

end Footprint

namespace Schedule

variable {site : Site}

/-- What a call does that is not forced to fail. -/
def work (schedule : Schedule site) (time : Nat) (footprint : Footprint) :
    (call : Call) → call.Reply × Footprint
  | .run argv => footprint.run site argv
  | .write path text => (.ok (), footprint.write site path text)
  | .read path => (footprint.read site path, footprint)
  | .workload _ _ => (.ok (schedule.timed time), footprint)

def host (schedule : Schedule site) : Host (Nat × Footprint) where
  answer := fun (time, footprint) call =>
    match schedule.force time call with
    | some cause => (.error cause, time + 1, footprint)
    | none =>
      let (reply, footprint) := schedule.work time footprint call
      (reply, time + 1, footprint)

variable {schedule : Schedule site} {call : Call} {law : Footprint → call.Reply → Footprint → Prop}

/-- A law has to allow for the forced failures and for the work. -/
theorem host_obeys
    (forced : ∀ time cause, schedule.force time call = some cause →
      ∀ footprint, law footprint (.error cause) footprint)
    (works : ∀ time footprint, law footprint (schedule.work time footprint call).1
      (schedule.work time footprint call).2) :
    schedule.host.Obeys Prod.snd call law := by
  rintro ⟨time, footprint⟩
  rw [host]
  cases fails : schedule.force time call with
  | some cause =>
    simp only [fails]
    exact forced time cause fails footprint
  | none =>
    simp only [fails]
    exact works time footprint

theorem run_create (variant : Variant) (footprint : Footprint) :
    footprint.run site (Cgroups.createArgv variant) = footprint.create variant := by
  cases variant <;> rfl

theorem run_delete (variant : Variant) (footprint : Footprint) :
    footprint.run site (Cgroups.deleteArgv variant) = footprint.delete variant := by
  cases variant <;> rfl

theorem run_apart {argv : List String} (creates : ∀ variant, argv ≠ Cgroups.createArgv variant)
    (deletes : ∀ variant, argv ≠ Cgroups.deleteArgv variant) (footprint : Footprint) :
    footprint.run site argv =
      if argv = site.tools.optimizer.stopArgv then footprint.stop argv
      else if argv.take 2 = [site.tools.optimizer.program, "start"] then
        (.ok {}, { footprint with optimizer := true })
      else (.ok {}, footprint) := by
  have noCreate : Variant.all.find? (Cgroups.createArgv · == argv) = none := by
    rw [List.find?_eq_none]
    exact fun variant _ same => creates variant (eq_of_beq same).symm
  have noDelete : Variant.all.find? (Cgroups.deleteArgv · == argv) = none := by
    rw [List.find?_eq_none]
    exact fun variant _ same => deletes variant (eq_of_beq same).symm
  rw [Footprint.run, noCreate, noDelete]

theorem run_other {argv : List String} (short : argv.length ≠ 3) (footprint : Footprint) :
    footprint.run site argv =
      if argv = site.tools.optimizer.stopArgv then footprint.stop argv
      else if argv.take 2 = [site.tools.optimizer.program, "start"] then
        (.ok {}, { footprint with optimizer := true })
      else (.ok {}, footprint) :=
  run_apart (fun _ same => short (congrArg List.length same))
    (fun _ same => short (congrArg List.length same)) footprint

theorem faithful (schedule : Schedule site) : Faithful site schedule.host Prod.snd where
  create variant := by
    refine host_obeys (fun _ _ _ _ => rfl) fun time footprint => ?_
    rw [work, run_create, Footprint.create]
    cases existing : footprint.cgroup variant with
    | none => exact ⟨existing, rfl⟩
    | some limit => exact rfl
  delete variant := by
    refine host_obeys (fun time cause forced footprint => ⟨rfl, fun absence => ?_⟩)
      fun time footprint => ?_
    · rw [schedule.never_absent time variant cause forced] at absence
      cases absence
    · rw [work, run_delete, Footprint.delete]
      cases existing : footprint.cgroup variant with
      | none => exact ⟨rfl, fun _ => existing⟩
      | some limit => exact rfl
  start descriptor := by
    refine host_obeys (fun _ _ _ _ => rfl) fun time footprint => ?_
    have starts : (site.tools.optimizer.startArgv descriptor).take 2 =
        [site.tools.optimizer.program, "start"] := rfl
    have noStop : site.tools.optimizer.startArgv descriptor ≠ site.tools.optimizer.stopArgv := by
      simp [Optimizer.startArgv, Optimizer.stopArgv]
    rw [work, run_other (by simp [Optimizer.startArgv]), if_neg noStop, if_pos starts]
    exact rfl
  stop := by
    refine host_obeys (fun time cause forced footprint => ⟨rfl, fun exited => ?_⟩)
      fun time footprint => ?_
    · rw [schedule.never_stopped time cause forced] at exited
      cases exited
    · rw [work, run_other (by simp [Optimizer.stopArgv]), if_pos rfl, Footprint.stop]
      by_cases running : footprint.optimizer = true
      · rw [if_pos running]
        exact rfl
      · rw [if_neg running]
        exact ⟨rfl, fun _ => Bool.eq_false_iff.mpr running⟩
  write path _ text := host_obeys (fun _ _ _ _ => rfl) fun _ _ => rfl
  read := by
    refine host_obeys (fun _ _ _ _ => rfl) fun time footprint => ?_
    rw [work, Footprint.read, if_pos rfl]
    cases found : footprint.smt with
    | none => exact rfl
    | some text => exact ⟨found, rfl⟩
  sync := by
    refine host_obeys (fun _ _ _ _ => rfl) fun time footprint => ?_
    rw [work, run_other (by decide), if_neg (by simp [Optimizer.stopArgv]), if_neg (by simp)]
  swap := by
    refine host_obeys (fun _ _ _ _ => rfl) fun time footprint => ?_
    rw [work, run_other (by decide), if_neg (by simp [Optimizer.stopArgv]), if_neg (by simp)]
  workload _ _ := host_obeys (fun _ _ _ _ => rfl) fun _ _ => rfl

/-- With nothing forced each reversal can do its work. -/
theorem unhindered {schedule : Schedule site}
    (calm : ∀ time call, schedule.force time call = none) :
    Unhindered site schedule.host Prod.snd where
  toFaithful := faithful schedule
  deletes variant := by
    refine host_obeys (fun time _ forced => absurd forced (by simp [calm])) fun time footprint => ?_
    rw [work, run_delete, Footprint.delete]
    cases footprint.cgroup variant with
    | none =>
      rintro cause refused
      obtain rfl := Except.error.inj refused
      show Cgroups.saysAbsent "cgdelete: No such file or directory" = true
      decide
    | some limit => exact nofun
  stops := by
    refine host_obeys (fun time _ forced => absurd forced (by simp [calm])) fun time footprint => ?_
    rw [work, run_other (by simp [Optimizer.stopArgv]), if_pos rfl, Footprint.stop]
    by_cases running : footprint.optimizer = true
    · rw [if_pos running]
      exact nofun
    · rw [if_neg running]
      rintro cause refused
      obtain rfl := Except.error.inj refused
      rfl
  writes text := by
    refine host_obeys (fun time _ forced => absurd forced (by simp [calm])) fun time footprint => ?_
    exact nofun

end Schedule

/-! A host to try theorems on: SMT is on, and the optimizer cannot be started at first. -/

namespace Sample

def site : Site where
  tools := { optimizer := { descriptor := some "/kdamonds.json" } }

def schedule : Schedule site where
  force time _ := if time = 7 then some (.access "spawn" "damo" (.numbered 5)) else none
  never_absent time _ _ forced := by
    by_cases now : time = 7 <;> simp only [now, if_true, if_false, Option.some.injEq] at forced
    · obtain rfl := forced
      rfl
    · cases forced
  never_stopped time _ forced := by
    by_cases now : time = 7 <;> simp only [now, if_true, if_false, Option.some.injEq] at forced
    · obtain rfl := forced
      rfl
    · cases forced

def start : Footprint where
  cgroup _ := none
  optimizer := false
  smt := some "on\n"

theorem start_clean : start.Clean :=
  ⟨fun _ => rfl, rfl⟩

def record (variant : Variant) : Record :=
  ⟨[(Key.cgroupName, .text variant.label), (Key.cgroupSize, .int 4096)]⟩

def workload : Workload where
  name := "sleep"
  command _ := .ok { argv := ["sleep", "1"] }

theorem workload_calm : ¬ workload.Panics := by
  rintro (⟨record, broke⟩ | ⟨output, elapsed, broke⟩) <;> cases broke

/-- An optimized run that fails, and a baseline run after it. -/
def series : Execution (Nat × Footprint) (SeriesResult × Runner) :=
  (site.series .goOn workload [record .damon, record .baseline] []).execute schedule.host (0, start)

end Sample
end CgroupBench
