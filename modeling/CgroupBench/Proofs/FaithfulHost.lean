import CgroupBench.Proofs.Watch
import CgroupBench.Series
import Mathlib.Logic.Function.Basic

/-!
# Faithful hosts

A host is faithful if each tool does to it what the tool is for, or fails and changes
nothing. Any call may fail in any way, with two exceptions: a deletion does not claim that
the cgroup is absent while it exists, and a stop does not exit with an error while the
optimizer runs. Of a host only the footprint is looked at, the part that a series may
change and has to put back; what else a call does, and when calls fail, is left open.
-/
namespace CgroupBench

/-- What a runner works with: its tools, and the files of the two machine-wide toggles. -/
structure Site where
  tools : Tools := {}
  smtControl : String := Machine.defaultSmtControl
  dropCaches : String := Machine.defaultDropCaches
deriving DecidableEq, Repr

namespace Site

/-- Every file that is ever written to. -/
def controls (site : Site) : List String :=
  site.smtControl :: site.dropCaches :: Variant.all.map site.tools.cgroups.limitPath

def probe (site : Site) (policy : FailurePolicy) : Procedure Runner :=
  Runner.probeAt site.smtControl site.dropCaches site.tools policy

/-- The runner that a probe gives. -/
def fresh (site : Site) (policy : FailurePolicy) (smtAtStart : Smt) : Runner where
  tools := site.tools
  policy
  machine := { smtControl := site.smtControl, dropCaches := site.dropCaches, smtAtStart }

/-- A series on a machine that is probed now. -/
def series (site : Site) (policy : FailurePolicy) (workload : Workload) (records : List Record)
    (measurements : List Measurement) : Procedure (SeriesResult × Runner) := do
  let runner ← site.probe policy
  runner.runSeries workload records measurements

end Site

/-- The runner works with the tools and the files of the site. -/
structure Runner.WorksAt (site : Site) (runner : Runner) : Prop where
  tools : runner.tools = site.tools
  smtControl : runner.machine.smtControl = site.smtControl
  dropCaches : runner.machine.dropCaches = site.dropCaches

def Runner.site (runner : Runner) : Site :=
  ⟨runner.tools, runner.machine.smtControl, runner.machine.dropCaches⟩

theorem Runner.worksAt_site (runner : Runner) : runner.WorksAt runner.site :=
  ⟨rfl, rfl, rfl⟩

theorem Runner.WorksAt.site_eq {site : Site} {runner : Runner} (works : runner.WorksAt site) :
    runner.site = site := by
  rw [Runner.site, works.tools, works.smtControl, works.dropCaches]

structure Footprint where
  /-- The cgroup of each variant, if it exists, with the text of its limit once one was
  written. -/
  cgroup : Variant → Option (Option String)
  optimizer : Bool
  /-- The text of the SMT control, if there is such a file. -/
  smt : Option String

namespace Footprint

def reading (footprint : Footprint) : Option Smt :=
  footprint.smt.bind Smt.ofText?

def put (footprint : Footprint) (variant : Variant) (cgroup : Option (Option String)) :
    Footprint :=
  { footprint with cgroup := Function.update footprint.cgroup variant cgroup }

/-- A file has its new text; the limit of a cgroup that does not exist has none. -/
def write (site : Site) (path text : String) (footprint : Footprint) : Footprint where
  cgroup variant :=
    if path = site.tools.cgroups.limitPath variant then
      (footprint.cgroup variant).map fun _ => some text
    else footprint.cgroup variant
  optimizer := footprint.optimizer
  smt := if path = site.smtControl then some text else footprint.smt

structure Clean (footprint : Footprint) : Prop where
  cgroup : ∀ variant, footprint.cgroup variant = none
  optimizer : footprint.optimizer = false

/-- SMT reads as it did, and unless it was on its control still has the same text. -/
structure SmtKept (start now : Footprint) : Prop where
  reading : now.reading = start.reading
  untouched : start.reading ≠ some .on → now.smt = start.smt

structure Restored (start now : Footprint) : Prop extends Clean now, SmtKept start now

theorem SmtKept.refl (start : Footprint) : SmtKept start start :=
  ⟨rfl, fun _ => rfl⟩

theorem SmtKept.of_smt_eq {start before now : Footprint} (kept : SmtKept start before)
    (same : now.smt = before.smt) : SmtKept start now where
  reading := by rw [← kept.reading, Footprint.reading, same, Footprint.reading]
  untouched off := same.trans (kept.untouched off)

/-- SMT that was on at the start is kept once it is on again. -/
theorem SmtKept.of_on {start now : Footprint} (was : start.reading = some .on)
    (is : now.reading = some .on) : SmtKept start now :=
  ⟨is.trans was.symm, fun off => absurd was off⟩

end Footprint

/-- The error text of a command that ran says that there was no such cgroup. -/
def CallError.saysAbsent : CallError → Bool
  | exited _ _ stderr => Cgroups.saysAbsent stderr
  | _ => false

theorem Cgroups.tolerateAbsent_error (cause : CallError) :
    tolerateAbsent (.error cause) = if cause.saysAbsent then .ok () else .error cause := by
  cases cause <;> rfl

theorem Optimizer.tolerateStopped_error (cause : CallError) :
    tolerateStopped (.error cause) = if cause.isExit then .ok () else .error cause := by
  cases cause <;> rfl

namespace Site

theorem limitPath_mem_controls (site : Site) (variant : Variant) :
    site.tools.cgroups.limitPath variant ∈ site.controls := by
  cases variant <;> simp [controls, Variant.all]

variable {site : Site} (apart : site.controls.Nodup)
include apart

theorem smtControl_ne_dropCaches : site.smtControl ≠ site.dropCaches := by
  intro same
  simp [controls, same] at apart

theorem smtControl_ne_limitPath (variant : Variant) :
    site.smtControl ≠ site.tools.cgroups.limitPath variant := by
  intro same
  cases variant <;> simp [controls, Variant.all, same] at apart

theorem dropCaches_ne_limitPath (variant : Variant) :
    site.dropCaches ≠ site.tools.cgroups.limitPath variant := by
  intro same
  cases variant <;> simp [controls, Variant.all, same] at apart

theorem limitPath_injective : Function.Injective site.tools.cgroups.limitPath := by
  intro first second same
  cases first <;> cases second <;> simp [controls, Variant.all, same] at apart ⊢

end Site

namespace Footprint

theorem write_smtControl {site : Site} (apart : site.controls.Nodup) (footprint : Footprint)
    (text : String) :
    footprint.write site site.smtControl text = { footprint with smt := some text } := by
  simp [write, Site.smtControl_ne_limitPath apart]

theorem write_dropCaches {site : Site} (apart : site.controls.Nodup) (footprint : Footprint)
    (text : String) : footprint.write site site.dropCaches text = footprint := by
  simp [write, Site.dropCaches_ne_limitPath apart, (Site.smtControl_ne_dropCaches apart).symm]

theorem write_limitPath {site : Site} (apart : site.controls.Nodup) (footprint : Footprint)
    (variant : Variant) (text : String) :
    footprint.write site (site.tools.cgroups.limitPath variant) text =
      footprint.put variant ((footprint.cgroup variant).map fun _ => some text) := by
  have elsewhere := (Site.smtControl_ne_limitPath apart variant).symm
  simp only [write, put, elsewhere, if_false, (Site.limitPath_injective apart).eq_iff]
  congr 1
  funext other
  by_cases same : variant = other
  · subst same
    simp
  · simp [same, Function.update_of_ne (Ne.symm same)]

/-! What each call does to the footprint, by its reply. -/

variable (before : Footprint)

def Creates (variant : Variant) : Except CallError Output → Footprint → Prop
  | .ok _, after => before.cgroup variant = none ∧ after = before.put variant (some none)
  | .error _, after => after = before

def Deletes (variant : Variant) : Except CallError Output → Footprint → Prop
  | .ok _, after => after = before.put variant none
  | .error cause, after =>
    after = before ∧ (cause.saysAbsent = true → before.cgroup variant = none)

def Starts : Except CallError Output → Footprint → Prop
  | .ok _, after => after = { before with optimizer := true }
  | .error _, after => after = before

def Stops : Except CallError Output → Footprint → Prop
  | .ok _, after => after = { before with optimizer := false }
  | .error cause, after => after = before ∧ (cause.isExit = true → before.optimizer = false)

def Writes (site : Site) (path text : String) : Except CallError Unit → Footprint → Prop
  | .ok _, after => after = before.write site path text
  | .error _, after => after = before

def Reads : Except CallError String → Footprint → Prop
  | .ok text, after => before.smt = some text ∧ after = before
  | .error _, after => after = before

end Footprint

section

variable {σ : Type} (site : Site) (host : Host σ) (see : σ → Footprint)

/-- Whatever state a call is made in, its reply and the footprints around it fit a law. -/
def Host.Obeys (call : Call) (law : Footprint → call.Reply → Footprint → Prop) : Prop :=
  ∀ state, law (see state) (host.answer state call).1 (see (host.answer state call).2)

structure Faithful : Prop where
  create : ∀ variant, host.Obeys see (.run (Cgroups.createArgv variant))
    fun before => before.Creates variant
  delete : ∀ variant, host.Obeys see (.run (Cgroups.deleteArgv variant))
    fun before => before.Deletes variant
  start : ∀ descriptor, host.Obeys see (.run (site.tools.optimizer.startArgv descriptor))
    Footprint.Starts
  stop : host.Obeys see (.run site.tools.optimizer.stopArgv) Footprint.Stops
  write : ∀ path ∈ site.controls, ∀ text, host.Obeys see (.write path text)
    fun before => before.Writes site path text
  read : host.Obeys see (.read site.smtControl) Footprint.Reads
  sync : host.Obeys see (.run ["sync"]) fun before _ after => after = before
  swap : host.Obeys see (.run ["swapoff", "-a"]) fun before _ after => after = before
  workload : ∀ scope invocation, host.Obeys see (.workload scope invocation)
    fun before _ after => after = before

/-- A faithful host on which no reversal is kept from its work: what exists can be deleted,
what runs can be stopped, and the SMT control can be written. -/
structure Unhindered : Prop extends Faithful site host see where
  deletes : ∀ variant, host.Obeys see (.run (Cgroups.deleteArgv variant))
    fun _ reply _ => ∀ cause, reply = .error cause → cause.saysAbsent = true
  stops : host.Obeys see (.run site.tools.optimizer.stopArgv)
    fun _ reply _ => ∀ cause, reply = .error cause → cause.isExit = true
  writes : ∀ text, host.Obeys see (.write site.smtControl text)
    fun _ reply _ => ∀ cause, reply ≠ .error cause

end

/-- A call leads where its law allows. -/
theorem Watch.Ensures.obey {σ κ : Type} {watch : Watch σ κ} {see : σ → Footprint} {call : Call}
    {law : Footprint → call.Reply → Footprint → Prop} {post : call.Reply → κ → σ → Prop}
    {account : κ} {state : σ} (obeys : watch.host.Obeys see call law)
    (h : ∀ reply state', law (see state) reply (see state') →
      watch.point account (.called call reply) state' ∧
        post reply (watch.enter account (.called call reply)) state') :
    watch.Ensures (.ask call .finish) account state post :=
  known (fun reply state' => law (see state) reply (see state')) (obeys state) h

end CgroupBench
