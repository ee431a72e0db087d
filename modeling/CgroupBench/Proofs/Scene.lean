import CgroupBench.Proofs.Unwinding
import CgroupBench.Simulation.HostState

/-!
# The whole of a host

A scene is all that is there to be changed: every cgroup and every file by its name, the
optimizer and swap. A host heeds reversals if each does its work where its call succeeds and
nothing where it fails; calls may fail in any way and at any time. It is obliging if, in
addition, a call fails only where there is nothing to reverse or something is in the way. The
host in memory is both, and with failures forced on it at any times it still heeds.
-/
namespace CgroupBench

@[ext]
structure Scene where
  /-- Each cgroup that exists, with the text of its limit once one was written. -/
  cgroup : String → Option (Option String)
  /-- The cgroups that cannot be deleted. -/
  busy : String → Bool
  /-- The text of each file that exists. -/
  file : String → Option String
  optimizer : Bool
  swap : Bool

/-- A reversal whose call was made, with the reply. -/
structure Attempt (site : Site) where
  reversal : Reversal
  reply : (reversal.call site).Reply

namespace Scene

def smt (site : Site) (scene : Scene) : Option Smt :=
  (scene.file site.smtControl).bind Smt.ofText?

def undo (site : Site) (scene : Scene) : Reversal → Scene
  | .enableSmt => { scene with file := Function.update scene.file site.smtControl (some "on\n") }
  | .deleteCgroup variant =>
    { scene with cgroup := Function.update scene.cgroup variant.label none }
  | .stopOptimizer => { scene with optimizer := false }

/-- Nothing is in the way of a reversal. -/
def Allows (site : Site) (scene : Scene) : Reversal → Prop
  | .enableSmt => scene.file site.smtControl ≠ none
  | .deleteCgroup variant => scene.busy variant.label = false
  | .stopOptimizer => True

/-- What an attempt makes of a scene: only one that succeeded changes it. -/
def after {site : Site} (scene : Scene) (attempt : Attempt site) : Scene :=
  match attempt.reply with
  | .ok _ => scene.undo site attempt.reversal
  | .error _ => scene

/-- No reversal puts anything in the way of another. -/
theorem Allows.undo {site : Site} {scene : Scene} {reversal : Reversal}
    (allows : scene.Allows site reversal) (first : Reversal) :
    (scene.undo site first).Allows site reversal := by
  cases reversal with
  | enableSmt =>
    cases first with
    | enableSmt => simp [Allows, Scene.undo]
    | deleteCgroup _ | stopOptimizer => exact allows
  | deleteCgroup variant => cases first <;> exact allows
  | stopOptimizer => trivial

theorem Allows.foldl_undo {site : Site} {scene : Scene} {reversal : Reversal}
    (allows : scene.Allows site reversal) (earlier : List Reversal) :
    (earlier.foldl (Scene.undo site) scene).Allows site reversal := by
  induction earlier generalizing scene with
  | nil => exact allows
  | cons first rest ih => exact ih (allows.undo first)

end Scene

namespace Attempt

variable {site : Site}

def logged (attempt : Attempt site) : (call : Call) × call.Reply :=
  ⟨attempt.reversal.call site, attempt.reply⟩

/-- What is reported of an attempt, unless it succeeded or there was nothing to reverse. -/
def fault? (attempt : Attempt site) : Option Fault :=
  match attempt.reply with
  | .ok _ => none
  | .error cause =>
    if attempt.reversal.excuses cause then none else some (attempt.reversal.fault cause)

theorem fault?_ok {reversal : Reversal} (answer : (reversal.call site).Answer) :
    fault? (⟨reversal, .ok answer⟩ : Attempt site) = none := rfl

theorem fault?_error (site : Site) (reversal : Reversal) (cause : CallError) :
    fault? (⟨reversal, .error cause⟩ : Attempt site) =
      if reversal.excuses cause then none else some (reversal.fault cause) := rfl

/-- Of the faults only that of an attempt to switch SMT on is one of SMT. -/
theorem isSmtRestore_fault? {attempt : Attempt site} {fault : Fault}
    (failed : attempt.fault? = some fault) :
    fault.isSmtRestore = true ↔ attempt.reversal = .enableSmt := by
  obtain ⟨reversal, cause | _⟩ := attempt
  · rw [fault?_error] at failed
    split at failed
    · cases failed
    · obtain rfl := Option.some.inj failed
      cases reversal <;> simp [Reversal.fault, Fault.isSmtRestore]
  · cases failed

end Attempt

section

variable {σ : Type} (site : Site) (host : Host σ) (see : σ → Scene)

structure Heeds : Prop where
  reversal : ∀ reversal state, see (host.answer state (reversal.call site)).2 =
    (see state).after ⟨reversal, (host.answer state (reversal.call site)).1⟩
  unread : ∀ state, see (host.answer state (.read site.smtControl)).2 = see state
  read : ∀ state text, (host.answer state (.read site.smtControl)).1 = .ok text →
    (see state).file site.smtControl = some text

/-- What fails finds nothing to reverse or to read, unless something is in the way. -/
structure Obliges : Prop extends Heeds site host see where
  excused : ∀ reversal state, (see state).Allows site reversal →
    ∀ cause, (host.answer state (reversal.call site)).1 = .error cause →
      reversal.excuses cause = true ∧ (see state).undo site reversal = see state
  missing : ∀ state cause, (host.answer state (.read site.smtControl)).1 = .error cause →
    (see state).file site.smtControl = none

end

variable {σ : Type}

/-- On an obliging host an attempt with nothing in its way is carried out. -/
theorem Obliges.carriedOut {site : Site} {host : Host σ} {see : σ → Scene}
    (obliges : Obliges site host see) {reversal : Reversal} {state : σ}
    (allows : (see state).Allows site reversal) {reply : (reversal.call site).Reply}
    (replied : (host.answer state (reversal.call site)).1 = reply) :
    Attempt.fault? ⟨reversal, reply⟩ = none ∧
      (see state).after ⟨reversal, reply⟩ = (see state).undo site reversal := by
  cases reply with
  | ok _ => exact ⟨rfl, rfl⟩
  | error cause =>
    obtain ⟨excused, same⟩ := obliges.excused reversal state allows cause replied
    exact ⟨(Attempt.fault?_error ..).trans (if_pos excused), same.symm⟩

/-- The same host, but some calls are made to fail and then change nothing. -/
def Host.faltering (host : Host σ) (force : Nat → Call → Option CallError) :
    Host (Nat × σ) where
  answer := fun (time, state) call =>
    match force time call with
    | some cause => (.error cause, time + 1, state)
    | none =>
      let (reply, state) := host.answer state call
      (reply, time + 1, state)

/-- Failures that are forced on a host take nothing from what its replies say. -/
theorem Heeds.faltering {site : Site} {host : Host σ} {see : σ → Scene}
    (heeds : Heeds site host see) (force : Nat → Call → Option CallError) :
    Heeds site (host.faltering force) (see ∘ Prod.snd) where
  reversal := by
    rintro reversal ⟨time, state⟩
    rw [Host.faltering]
    cases forced : force time (reversal.call site) with
    | some cause => simp only [forced]; rfl
    | none => simp only [forced]; exact heeds.reversal reversal state
  unread := by
    rintro ⟨time, state⟩
    rw [Host.faltering]
    cases forced : force time (.read site.smtControl) with
    | some cause => simp only [forced]; rfl
    | none => simp only [forced]; exact heeds.unread state
  read := by
    rintro ⟨time, state⟩ text
    rw [Host.faltering]
    cases forced : force time (.read site.smtControl) with
    | some cause => simp only [forced]; exact nofun
    | none => simp only [forced]; exact heeds.read state text

namespace Simulation.HostState

def host : Host HostState :=
  ⟨answer⟩

def scene (state : HostState) : Scene where
  cgroup name := state.cgroups.lookup name
  busy name := decide (name ∈ state.busy)
  file path := state.files.lookup path
  optimizer := state.optimizer
  swap := state.swap

theorem run_delete (variant : Variant) (state : HostState) :
    state.run (Cgroups.deleteArgv variant) =
      state.deleteCgroup (Cgroups.deleteArgv variant) variant.label := by
  cases variant <;> rfl

theorem run_stop (optimizer : Optimizer) (state : HostState) :
    state.run optimizer.stopArgv = state.stopOptimizer optimizer.stopArgv := by
  simp [run, Optimizer.stopArgv]

theorem saysAbsent_refused (variant : Variant) :
    Cgroups.saysAbsent (s!"cgdelete: cannot remove group '{variant.label}': "
      ++ "No such file or directory") = true := by
  cases variant <;> decide +kernel

theorem scene_write {path : String} (plain : limitOwner? path = none) (text : String)
    (state : HostState) :
    state.write path text = (.ok (), { state with files := assign path text state.files }) := by
  rw [HostState.write, plain]

/-- The host in memory obliges wherever the control of SMT is a file like others. -/
theorem obliges {site : Site} (plain : limitOwner? site.smtControl = none) :
    Obliges site host scene where
  reversal reversal state := by
    cases reversal with
    | enableSmt =>
      show scene (state.write site.smtControl "on\n").2 =
        (scene state).after ⟨.enableSmt, (state.write site.smtControl "on\n").1⟩
      rw [scene_write plain]
      refine Scene.ext rfl rfl (funext fun path => ?_) rfl rfl
      show _ = Function.update (scene state).file site.smtControl (some "on\n") path
      rw [Function.update_apply]
      exact lookup_assign ..
    | deleteCgroup variant =>
      show scene (state.run (Cgroups.deleteArgv variant)).2 =
        (scene state).after ⟨.deleteCgroup variant, (state.run (Cgroups.deleteArgv variant)).1⟩
      rw [run_delete, HostState.deleteCgroup]
      split
      · rfl
      · split
        · rfl
        · refine Scene.ext (funext fun name => ?_) rfl rfl rfl rfl
          show _ = Function.update (scene state).cgroup variant.label none name
          rw [Function.update_apply]
          exact lookup_remove ..
    | stopOptimizer =>
      show scene (state.run site.tools.optimizer.stopArgv).2 =
        (scene state).after ⟨.stopOptimizer, (state.run site.tools.optimizer.stopArgv).1⟩
      rw [run_stop, HostState.stopOptimizer]
      split <;> rfl
  unread _ := rfl
  read state text := by
    show state.read site.smtControl = .ok text → _
    rw [HostState.read]
    cases found : state.files.lookup site.smtControl with
    | none => exact nofun
    | some contents => exact fun same => found.trans (congrArg some (Except.ok.inj same))
  excused reversal state allows cause := by
    cases reversal with
    | enableSmt =>
      show (state.write site.smtControl "on\n").1 = .error cause → _
      rw [scene_write plain]
      exact nofun
    | deleteCgroup variant =>
      have free : variant.label ∉ state.busy := of_decide_eq_false allows
      show (state.run (Cgroups.deleteArgv variant)).1 = .error cause → _
      rw [run_delete, HostState.deleteCgroup, if_neg free]
      by_cases there : state.hasCgroup variant.label = true
      · rw [if_neg (not_not.mpr there)]
        exact nofun
      · rw [if_pos there]
        rintro refused
        obtain rfl := Except.error.inj refused
        refine ⟨saysAbsent_refused variant, ?_⟩
        have absent : (scene state).cgroup variant.label = none :=
          Option.not_isSome_iff_eq_none.mp there
        rw [Scene.undo, ← absent, Function.update_eq_self]
    | stopOptimizer =>
      show (state.run site.tools.optimizer.stopArgv).1 = .error cause → _
      rw [run_stop, HostState.stopOptimizer]
      by_cases running : state.optimizer = true
      · rw [if_pos running]
        exact nofun
      · rw [if_neg running]
        rintro refused
        obtain rfl := Except.error.inj refused
        have stopped : (scene state).optimizer = false := Bool.eq_false_iff.mpr running
        exact ⟨rfl, by rw [Scene.undo, ← stopped]⟩
  missing state cause := by
    show state.read site.smtControl = .error cause → _
    rw [HostState.read]
    cases found : state.files.lookup site.smtControl with
    | none => exact fun _ => found
    | some contents => exact nofun

end Simulation.HostState

end CgroupBench
