import CgroupBench.Proofs.Preparation
import CgroupBench.Proofs.Undoing

/-!
# The pending reversals cover the host

Reversals cover a footprint if carrying them out brings back the footprint of the start. This
is the invariant of the lifecycle: a run registers a reversal before the step that it
reverses, so the pending reversals cover the host at every point until they are drained, and
the journal covers it just as well for a machine that never saw the run.
-/
namespace CgroupBench

structure Covers (reversals : List Reversal) (start now : Footprint) : Prop where
  cgroup : ∀ variant, now.cgroup variant ≠ none → .deleteCgroup variant ∈ reversals
  optimizer : now.optimizer = true → .stopOptimizer ∈ reversals
  smt : .enableSmt ∉ reversals → Footprint.SmtKept start now
  wasOn : .enableSmt ∈ reversals → start.reading = some .on

namespace Covers

variable {reversals todo : List Reversal} {reversal : Reversal} {variant : Variant}
  {machine machine' : Machine} {start now after : Footprint}

/-- Nothing has to be reversed exactly where everything is restored. -/
theorem nil_iff : Covers [] start now ↔ Footprint.Restored start now where
  mp covers :=
    { cgroup variant := by
        by_contra existing
        exact List.not_mem_nil (covers.cgroup variant existing)
      optimizer := by
        by_contra running
        exact List.not_mem_nil (covers.optimizer (by simpa using running))
      toSmtKept := covers.smt List.not_mem_nil }
  mpr restored :=
    { cgroup variant existing := absurd (restored.cgroup variant) existing
      optimizer running := by
        rw [restored.optimizer] at running
        cases running
      smt _ := restored.toSmtKept
      wasOn mem := absurd mem List.not_mem_nil }

theorem register (covers : Covers reversals start now)
    (wasOn : reversal = .enableSmt → start.reading = some .on) :
    Covers (reversals ++ [reversal]) start now where
  cgroup variant existing := List.mem_append_left _ (covers.cgroup variant existing)
  optimizer running := List.mem_append_left _ (covers.optimizer running)
  smt unlisted := covers.smt fun mem => unlisted (List.mem_append_left _ mem)
  wasOn mem := by
    rcases List.mem_append.mp mem with mem | mem
    · exact covers.wasOn mem
    · exact wasOn (List.mem_singleton.mp mem).symm

/-! What is listed may come and go. -/

theorem put (covers : Covers reversals start now) (listed : .deleteCgroup variant ∈ reversals)
    (cgroup : Option (Option String)) : Covers reversals start (now.put variant cgroup) where
  cgroup other existing := by
    by_cases same : other = variant
    · rw [same]
      exact listed
    · refine covers.cgroup other ?_
      simpa only [Footprint.put, Function.update_of_ne same] using existing
  optimizer := covers.optimizer
  smt unlisted := (covers.smt unlisted).of_smt_eq rfl
  wasOn := covers.wasOn

theorem stopped (covers : Covers reversals start now) :
    Covers reversals start { now with optimizer := false } where
  cgroup := covers.cgroup
  optimizer running := nomatch running
  smt unlisted := (covers.smt unlisted).of_smt_eq rfl
  wasOn := covers.wasOn

theorem started (covers : Covers reversals start now) (listed : .stopOptimizer ∈ reversals) :
    Covers reversals start { now with optimizer := true } where
  cgroup := covers.cgroup
  optimizer _ := listed
  smt unlisted := (covers.smt unlisted).of_smt_eq rfl
  wasOn := covers.wasOn

theorem switched (covers : Covers reversals start now) (listed : .enableSmt ∈ reversals)
    (smt : Option String) : Covers reversals start { now with smt } where
  cgroup := covers.cgroup
  optimizer := covers.optimizer
  smt unlisted := absurd listed unlisted
  wasOn := covers.wasOn

/-- Carried out without a fault, in whatever order, reversals bring back what they cover. A
machine that owes no restore must not have changed SMT. -/
theorem undone (covers : Covers reversals start now)
    (same : ∀ reversal, reversal ∈ todo ↔ reversal ∈ reversals)
    (settled : machine.smtDisabled = false → Footprint.SmtKept start now)
    (undone : Undone todo (machine, now) (machine', after) []) :
    Footprint.Restored start after where
  cgroup variant := by
    by_cases listed : .deleteCgroup variant ∈ todo
    · exact undone.deleted rfl variant listed
    · rcases undone.cgroup variant with same' | gone
      · rw [same']
        by_contra existing
        exact listed ((same _).mpr (covers.cgroup variant existing))
      · exact gone
  optimizer := by
    by_cases listed : .stopOptimizer ∈ todo
    · exact undone.stopped rfl listed
    · rcases undone.optimizer with same' | stopped
      · rw [same']
        by_contra running
        exact listed ((same _).mpr (covers.optimizer (by simpa using running)))
      · exact stopped
  toSmtKept := by
    rcases undone.smt with ⟨same', kept⟩ | ⟨listed, -, on, -⟩
    · refine Footprint.SmtKept.of_smt_eq ?_ same'
      by_cases listed : .enableSmt ∈ todo
      · have paid : machine'.smtDisabled = false := undone.enabled rfl listed
        exact settled ((congrArg Machine.smtDisabled kept).symm.trans paid)
      · exact covers.smt fun mem => listed ((same _).mpr mem)
    · refine .of_on (covers.wasOn ((same _).mp listed)) ?_
      rw [Footprint.reading, on]
      decide

end Covers

/-- What ties a runner to the account and to the host while it prepares. -/
structure Tallies (site : Site) (start : Footprint) (runner : Runner) (standing : Standing)
    (now : Footprint) : Prop extends runner.WorksAt site where
  cleanup : standing.cleanup = runner.cleanup
  journal : runner.cleanup.journal = runner.cleanup.pending
  covers : Covers runner.cleanup.pending start now
  /-- SMT changes only while a restore is owed, -/
  settled : runner.machine.smtDisabled = false → Footprint.SmtKept start now
  /-- and what is owed is listed. -/
  owed : runner.machine.smtDisabled = true → .enableSmt ∈ runner.cleanup.pending
  probed : runner.machine.smtAtStart = .on → start.reading = some .on
  touched : standing.touched = true → start.reading = some .on

/-- What is claimed of every point of a run that has not begun to unwind. -/
def Standing.Covered (start : Footprint) (standing : Standing) (now : Footprint) : Prop :=
  standing.underway = true →
    Covers standing.cleanup.journal start now ∧ (standing.touched = true → start.reading = some .on)

theorem Standing.Covered.of_idle {start now : Footprint} {standing : Standing}
    (idle : standing.underway = false) : standing.Covered start now := by
  intro underway
  rw [idle] at underway
  cases underway

namespace Tallies

variable {site : Site} {start now now' : Footprint} {runner : Runner} {standing : Standing}
  {reversal : Reversal}

theorem covered (h : Tallies site start runner standing now) : standing.Covered start now := by
  intro _
  rw [h.cleanup, h.journal]
  exact ⟨h.covers, h.touched⟩

/-- A step that leaves SMT alone. -/
theorem move (h : Tallies site start runner standing now)
    (covers : Covers runner.cleanup.pending start now') (smt : now'.smt = now.smt) :
    Tallies site start runner standing now' :=
  { h with covers, settled := fun settled => (h.settled settled).of_smt_eq smt }

theorem agrees {runner' : Runner} (h : Tallies site start runner standing now)
    (same : runner.Agrees runner') : Tallies site start runner' standing now where
  toWorksAt := h.toWorksAt.agrees same
  cleanup := h.cleanup.trans same.cleanup.symm
  journal := by
    rw [same.cleanup]
    exact h.journal
  covers := by
    rw [same.cleanup]
    exact h.covers
  settled settled := h.settled (same.smtDisabled.symm.trans settled)
  owed owed := by
    rw [same.cleanup]
    exact h.owed (same.smtDisabled.symm.trans owed)
  probed on := h.probed (same.smtAtStart.symm.trans on)
  touched := h.touched

/-- A note that leaves the pending reversals alone. -/
theorem mark {note : Note} (h : Tallies site start runner standing now)
    (aside : note.isEntry = false) :
    Tallies site start runner (standing.enter site (.noted note)) now :=
  { h with cleanup := (Note.apply_aside aside _).trans h.cleanup }

theorem register (h : Tallies site start runner standing now)
    (wasOn : reversal = .enableSmt → start.reading = some .on) :
    Tallies site start { runner with cleanup := runner.cleanup.register reversal }
      (standing.enter site (.noted (.registered reversal))) now :=
  { h with
    cleanup := congrArg (Cleanup.register · reversal) h.cleanup
    journal := rfl
    covers := h.covers.register wasOn
    owed := fun owed => List.mem_append_left _ (h.owed owed) }

end Tallies
end CgroupBench
