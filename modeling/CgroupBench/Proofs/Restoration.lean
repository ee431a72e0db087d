import CgroupBench.Proofs.Coverage
import CgroupBench.Proofs.FaultyHost
import CgroupBench.Proofs.Lifecycle

/-!
# A series leaves the host as it found it

The pending reversals are in step with the host until they are drained, whatever fails, and
unwinding takes the host from anywhere back to where it began, or reports a fault that says
it did not. A series goes on only where the host is restored, so each run starts from the
footprint of the start.
-/
namespace CgroupBench

/-- What holds after an unwinding even if that went wrong. -/
structure Halted (site : Site) (start : Footprint) (machine : Machine) (standing : Standing) :
    Prop where
  smtControl : machine.smtControl = site.smtControl
  idle : standing.underway = false
  owed : machine.smtDisabled = true → start.reading = some .on
  touched : standing.touched = true → start.reading = some .on

namespace Halted

variable {site : Site} {start : Footprint} {machine machine' : Machine}
  {standing standing' : Standing}

theorem mark {note : Note} (h : Halted site start machine standing) (rest : note ≠ .entered .idle) :
    Halted site start machine (standing.enter site (.noted note)) :=
  { h with idle := Standing.underwayAfter_eq_false rest h.idle }

theorem unwound {σ : Type} {see : σ → Footprint} {todo : List Reversal} {faults : List Fault}
    {state state' : σ} (h : Halted site start machine standing)
    (unwound : Unwound see todo machine standing state faults machine' standing' state') :
    Halted site start machine' standing' where
  smtControl := unwound.smtControl.trans h.smtControl
  idle := unwound.unmoved.underway.trans h.idle
  owed still := h.owed (unwound.undone.owed still)
  touched touched :=
    (unwound.unmoved.touched touched).elim h.touched fun owed => h.owed owed.2

end Halted

structure Ready (site : Site) (start : Footprint) (runner : Runner) (standing : Standing)
    (now : Footprint) : Prop extends Tallies site start runner standing now where
  settledUp : runner.cleanup.pending = []

theorem Ready.restored {site : Site} {start now : Footprint} {runner : Runner}
    {standing : Standing} (h : Ready site start runner standing now) :
    Footprint.Restored start now :=
  Covers.nil_iff.mp (h.settledUp ▸ h.covers)

section

variable {σ : Type} (site : Site) (host : Host σ) (see : σ → Footprint) (start : Footprint)

/-- The watch of a series on a host that began with this footprint. -/
def guard : Watch σ Standing :=
  Standing.watch site host fun standing state => standing.Covered start (see state)

theorem covered_of_idle (standing : Standing) (state : σ) (idle : standing.underway = false) :
    standing.Covered start (see state) :=
  .of_idle idle

def Steady (needed : List Reversal) (runner : Runner) (standing : Standing) (state : σ) : Prop :=
  Tallies site start runner standing (see state) ∧
    ∀ reversal ∈ needed, reversal ∈ runner.cleanup.pending

end

variable {σ : Type} {site : Site} {host : Host σ} {see : σ → Footprint} {start : Footprint}
  {needed : List Reversal} {reversal : Reversal} {variant : Variant}

namespace Steady

variable {runner : Runner} {standing : Standing} {state state' : σ}

theorem covered (h : Steady site see start needed runner standing state) :
    standing.Covered start (see state) :=
  h.1.covered

theorem relax (h : Steady site see start needed runner standing state) :
    Steady site see start [] runner standing state :=
  ⟨h.1, fun _ mem => absurd mem List.not_mem_nil⟩

theorem move (h : Steady site see start needed runner standing state)
    (covers : Covers runner.cleanup.pending start (see state'))
    (smt : (see state').smt = (see state).smt) :
    Steady site see start needed runner standing state' :=
  ⟨h.1.move covers smt, h.2⟩

theorem of_same (h : Steady site see start needed runner standing state)
    (same : see state' = see state) : Steady site see start needed runner standing state' :=
  h.move (same ▸ h.1.covers) (congrArg Footprint.smt same)

/-- The cgroup of a variant whose deletion is registered may come and go. -/
theorem put (h : Steady site see start needed runner standing state)
    (listed : .deleteCgroup variant ∈ needed) {cgroup : Option (Option String)}
    (after : see state' = (see state).put variant cgroup) :
    Steady site see start needed runner standing state' := by
  refine h.move ?_ ?_ <;> rw [after]
  · exact h.1.covers.put (h.2 _ listed) cgroup
  · rfl

end Steady

/-! The primitive steps keep the pending reversals in step with the host. -/

section

variable {runner : Runner} {standing : Standing} {state : σ}

/-- SMT may be registered only where it was on. -/
theorem ensures_register (h : Steady site see start needed runner standing state)
    (on : reversal = .enableSmt → runner.machine.smtAtStart = .on) :
    (guard site host see start).Ensures (Runner.register reversal runner) standing state
      fun out => Steady site see start (reversal :: needed) out.2 := by
  have registered := h.1.register fun smt => h.1.probed (on smt)
  exact ⟨registered.covered, registered, Cleanup.mem_register h.2⟩

variable (faithful : Faithful site host see) (apart : site.controls.Nodup)
include faithful apart

theorem ensures_issued {call : Call} (issued : site.Issues call needed)
    (h : Steady site see start needed runner standing state) :
    (guard site host see start).Ensures (.ask call .finish) standing state
      fun _ => Steady site see start needed runner := by
  have same : ∀ state', see state' = see state → standing.Covered start (see state') ∧
      Steady site see start needed runner standing state' :=
    fun _ same => ⟨(h.of_same same).covered, h.of_same same⟩
  have put : ∀ {variant : Variant} {cgroup : Option (Option String)} (state' : σ),
      .deleteCgroup variant ∈ needed → see state' = (see state).put variant cgroup →
      standing.Covered start (see state') ∧ Steady site see start needed runner standing state' :=
    fun _ listed after => ⟨(h.put listed after).covered, h.put listed after⟩
  cases issued with
  | sync => exact ensures_call faithful.sync fun _ state' law => same state' law
  | swapOff => exact ensures_call faithful.swap fun _ state' law => same state' law
  | workload scope invocation =>
    exact ensures_call (faithful.workload scope invocation) fun _ state' law => same state' law
  | dropCaches =>
    have quiet := (Site.smtControl_ne_dropCaches apart).symm
    refine ensures_call (faithful.write _ (.tail _ (.head _)) _) fun reply state' law => ?_
    rw [Standing.enter_write_apart _ quiet]
    cases reply with
    | error cause => exact same state' law
    | ok _ => exact same state' (law.trans (Footprint.write_dropCaches apart _ _))
  | stop =>
    refine ensures_call faithful.stop ?_
    rintro (cause | output) state' law
    · exact same state' law.1
    · have h' : Steady site see start needed runner standing state' := by
        refine h.move ?_ ?_ <;> rw [law]
        exact h.1.covers.stopped
      exact ⟨h'.covered, h'⟩
  | clear listed =>
    refine ensures_call (faithful.delete _) ?_
    rintro (cause | output) state' law
    · exact same state' law.1
    · exact put state' listed law
  | create listed =>
    refine ensures_call (faithful.create _) ?_
    rintro (cause | output) state' law
    · exact same state' law
    · exact put state' listed law.2
  | @limit variant _ memoryLimit listed =>
    have quiet := (Site.smtControl_ne_limitPath apart variant).symm
    refine ensures_call (faithful.write _ (site.limitPath_mem_controls variant) _)
      fun reply state' law => ?_
    rw [Standing.enter_write_apart _ quiet]
    cases reply with
    | error cause => exact same state' law
    | ok _ => exact put state' listed (law.trans (Footprint.write_limitPath apart _ _ _))
  | start descriptor listed =>
    refine ensures_call (faithful.start descriptor) ?_
    rintro (cause | output) state' law
    · exact same state' law
    · have h' : Steady site see start needed runner standing state' := by
        refine h.move ?_ ?_ <;> rw [law]
        exact h.1.covers.started (h.2 _ listed)
      exact ⟨h'.covered, h'⟩

theorem ensures_smtOff (h : Steady site see start [.enableSmt] runner standing state) :
    (guard site host see start).Ensures (Procedure.write site.smtControl "off\n") standing state
      fun reply => Steady site see start [.enableSmt] (runner.switchedOff reply) := by
  have mem : .enableSmt ∈ runner.cleanup.pending := h.2 _ (.head _)
  have wasOn : start.reading = some .on := h.1.covers.wasOn mem
  refine ensures_call (faithful.write _ (.head _) _) ?_
  rintro (cause | _) state' law
  · have h' := h.of_same law
    have touched : Steady site see start [.enableSmt] runner
        (standing.enter site (.called (.write site.smtControl "off\n") (.error cause))) state' :=
      ⟨{ h'.1 with touched := fun _ => wasOn }, h'.2⟩
    exact ⟨touched.covered, touched⟩
  · rw [Footprint.Writes, Footprint.write_smtControl apart] at law
    have covers : Covers runner.cleanup.pending start (see state') := by
      rw [law]
      exact h.1.covers.switched mem _
    have owing : Steady site see start [.enableSmt] (runner.switchedOff (.ok ()))
        (standing.enter site (.called (.write site.smtControl "off\n") (.ok ()))) state' := by
      refine ⟨{ h.1 with covers, settled := ?_, owed := fun _ => mem, touched := fun _ => wasOn },
        h.2⟩
      intro settled
      cases settled
    exact ⟨owing.covered, owing⟩

theorem steady_upholds :
    Upholds site (guard site host see start) (Steady site see start) where
  worksAt h := h.1.toWorksAt
  relax h := h.relax
  agrees same h := ⟨h.1.agrees same, same.cleanup ▸ h.2⟩
  aside aside h := ⟨(h.1.mark aside).covered, h.1.mark aside, h.2⟩
  register h on := ensures_register h on
  call issued h := ensures_issued faithful apart issued h
  smtOff _ h := ensures_smtOff faithful apart h

omit faithful apart in
/-- Unwinding restores the host, or says that it did not. -/
def Settles (site : Site) (see : σ → Footprint) (start : Footprint) :
    Except Fault Unit → Runner → Standing → σ → Prop
  | .ok (), runner, standing, state =>
    Halted site start runner.machine standing ∧ Ready site start runner standing (see state)
  | .error fault, runner, standing, _ =>
    Halted site start runner.machine standing ∧ fault.isUnrestored = true

theorem ensures_tearDown (h : Steady site see start [] runner standing state) :
    (guard site host see start).Ensures (Runner.tearDown runner) standing state
      fun out => Settles site see start out.1 out.2 := by
  show (guard site host see start).Ensures
    (.note .drained (unwind runner.tools runner.cleanup.pending.reverse runner.machine >>= _)) _ _ _
  refine ⟨.of_idle rfl, ?_⟩
  have drained : Halted site start runner.machine (standing.enter site (.noted .drained)) :=
    ⟨h.1.smtControl, rfl, fun owed => h.1.covers.wasOn (h.1.owed owed), h.1.touched⟩
  have unwind := ensures_unwind faithful apart (covered_of_idle see start) state h.1.smtControl
    drained.idle runner.cleanup.pending.reverse
  rw [← h.1.tools] at unwind
  refine unwind.andThen ?_
  rintro ⟨result, machine⟩ standing' state' ⟨faults, outcome, unwound⟩
  have halted : Halted site start machine (standing'.enter site (.noted (.occupied none))) :=
    (drained.unwound unwound).mark nofun
  refine ⟨.of_idle halted.idle, ?_⟩
  rcases result with fault | _
  · exact ⟨halted, unwound.undone.unrestored fault (verdict_error outcome.symm)⟩
  · obtain rfl := verdict_ok outcome.symm
    have undone := unwound.undone
    obtain ⟨smtDisabled, same⟩ := undone.machine_same
    have listed : ∀ reversal, reversal ∈ runner.cleanup.pending.reverse ↔
        reversal ∈ runner.cleanup.pending := fun _ => List.mem_reverse
    have restored := h.1.covers.undone listed h.1.settled undone
    refine ⟨halted, ?_, rfl⟩
    exact
      { tools := h.1.tools
        smtControl := halted.smtControl
        dropCaches := (congrArg Machine.dropCaches same).trans h.1.dropCaches
        cleanup := unwound.unmoved.cleanup
        journal := rfl
        covers := Covers.nil_iff.mpr restored
        settled := fun _ => restored.toSmtKept
        owed := fun still => by
          have paid := undone.enabled rfl ((listed _).mpr (h.1.owed (undone.owed still)))
          rw [show machine.smtDisabled = false from paid] at still
          cases still
        probed := fun on => h.1.probed ((congrArg Machine.smtAtStart same).symm.trans on)
        touched := halted.touched }

omit faithful apart in
theorem ensures_leave {result : Except Fault Unit} {stage : Stage} (busy : stage ≠ .idle)
    (h : Settles site see start result runner standing state) :
    (guard site host see start).Ensures (Runner.enter stage runner) standing state
      fun out => Settles site see start result out.2 := by
  have rest : Note.entered stage ≠ .entered .idle := fun same => busy (Note.entered.inj same)
  cases result with
  | ok _ => exact ⟨.of_idle (h.1.mark rest).idle, h.1.mark rest, { h.2 with }⟩
  | error fault => exact ⟨.of_idle (h.1.mark rest).idle, h.1.mark rest, h.2⟩

/-- A runner that is ready owes nothing; another may owe a restore, which is tried again. -/
theorem ensures_enable {result : Except Fault Unit}
    (h : Settles site see start result runner standing state) :
    (guard site host see start).Ensures (Runner.onMachine Machine.enableSmt runner) standing state
      fun out standing state => Settles site see start result out.2 standing state ∧
        ∀ fault, out.1 = .error fault →
          Settles site see start (.error fault) out.2 standing state := by
  cases result with
  | ok _ =>
    have settled : runner.machine.smtDisabled = false := by
      by_contra owed
      have listed := h.2.owed (by simpa using owed)
      rw [h.2.settledUp] at listed
      exact List.not_mem_nil listed
    rw [Runner.onMachine, Step.onPart, Machine.enableSmt_settled settled]
    refine ⟨h, fun fault failed => ?_⟩
    cases failed
  | error first =>
    obtain ⟨halted, unrestored⟩ := h
    refine (ensures_enableSmt faithful apart (covered_of_idle see start) state halted.smtControl
      halted.idle).andThen ?_
    rintro ⟨result, machine⟩ standing' state' unwound
    have halted' : Halted site start machine standing' := halted.unwound unwound
    refine ⟨⟨halted', unrestored⟩, fun fault failed => ⟨halted', ?_⟩⟩
    obtain rfl : result = .error fault := failed
    exact unwound.undone.unrestored fault (.head _)

theorem steady_repeats :
    Repeats site (guard site host see start) (Steady site see start) (Settles site see start) where
  toUpholds := steady_upholds faithful apart
  tearDown h := ensures_tearDown faithful apart h
  leave _ busy h := ensures_leave busy h
  again h := ⟨h.2.toTallies, fun _ mem => absurd mem List.not_mem_nil⟩
  enable h := ensures_enable faithful apart h

omit faithful apart in
theorem fresh_settles (policy : FailurePolicy) {smtAtStart : Smt}
    (restored : Footprint.Restored start (see state))
    (probed : smtAtStart = .on → start.reading = some .on) :
    Settles site see start (.ok ()) (site.fresh policy smtAtStart) {} state := by
  refine ⟨⟨rfl, rfl, nofun, nofun⟩, ?_⟩
  exact
    { tools := rfl
      smtControl := rfl
      dropCaches := rfl
      cleanup := rfl
      journal := rfl
      covers := Covers.nil_iff.mpr restored
      settled := fun _ => restored.toSmtKept
      owed := nofun
      probed
      touched := nofun
      settledUp := rfl }

omit apart in
theorem ensures_probe (policy : FailurePolicy) (clean : (see state).Clean) :
    (guard site host see (see state)).Ensures (site.probe policy) {} state
      (Settles site see (see state) (.ok ())) := by
  have restored : ∀ state', see state' = see state →
      Footprint.Restored (see state) (see state') := by
    intro state' same
    rw [same]
    exact { clean with toSmtKept := .refl _ }
  refine Watch.Ensures.bind (Watch.Ensures.bind (ensures_call faithful.read ?_))
  rintro (cause | text) state' law
  · exact ⟨.of_idle rfl, fresh_settles policy (restored state' law) nofun⟩
  · refine ⟨.of_idle rfl, fresh_settles policy (restored state' law.2) fun on => ?_⟩
    rw [Footprint.reading, law.1]
    cases found : Smt.ofText? text with
    | none => simp [found] at on
    | some smt => simpa [found] using on

theorem ensures_series (policy : FailurePolicy) (workload : Workload) (records : List Record)
    (measurements : List Measurement) (clean : (see state).Clean) :
    (guard site host see (see state)).Ensures
      (site.series policy workload records measurements) {} state
      (Runner.Closed (Steady site see (see state) []) (Settles site see (see state)) workload) := by
  refine (ensures_probe faithful policy clean).andThen ?_
  rintro runner standing state' settled
  exact (steady_repeats faithful apart).runSeries workload records measurements settled

omit faithful apart in
theorem restored_of_closed {workload : Workload} {out : SeriesResult × Runner}
    (h : Runner.Closed (Steady site see start []) (Settles site see start) workload out standing
      state)
    (calm : ¬ workload.Panics) :
    out.1.ending ≠ .panicked ∧
      ((∀ fault, out.1.ending = .stopped fault → fault.isUnrestored = false) →
        Footprint.Restored start (see state)) := by
  obtain ⟨⟨ending, _⟩, runner⟩ := out
  cases ending with
  | finished => exact ⟨nofun, fun _ => h.2.restored⟩
  | stopped fault =>
    refine ⟨nofun, fun only => ?_⟩
    rcases h with ⟨-, unrestored⟩ | ⟨-, ready⟩
    · rw [only fault rfl] at unrestored
      cases unrestored
    · exact ready.restored
  | panicked =>
    exact absurd h.2 calm

/-- Whatever calls fail, a series ends with the host as it was, except where it reports a
failed unwinding or a failed restore of SMT. -/
theorem series_restores (state : σ) (clean : (see state).Clean) (policy : FailurePolicy)
    (workload : Workload) (calm : ¬ workload.Panics) (records : List Record)
    (measurements : List Measurement) :
    let series := (site.series policy workload records measurements).execute host state
    series.value.1.ending ≠ .panicked ∧
      ((∀ fault, series.value.1.ending = .stopped fault → fault.isUnrestored = false) →
        Footprint.Restored (see state) (see series.host)) := by
  have settled :=
    (ensures_series faithful apart policy workload records measurements clean).finished
  exact restored_of_closed settled calm

end

theorem series_restores_after_failed_start :
    Sample.series.value.1.ending = .finished ∧
      Footprint.Restored Sample.start Sample.series.host.2 := by
  have finished : Sample.series.value.1.ending = .finished := by decide +kernel
  have restored := series_restores Sample.schedule.faithful (by decide) (0, Sample.start)
    Sample.start_clean .goOn Sample.workload Sample.workload_calm
    [Sample.record .damon, Sample.record .baseline] []
  refine ⟨finished, restored.2 fun fault stopped => ?_⟩
  change Sample.series.value.1.ending = .stopped fault at stopped
  rw [finished] at stopped
  cases stopped

end CgroupBench
