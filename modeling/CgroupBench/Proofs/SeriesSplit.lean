import CgroupBench.Proofs.OwedRestore
import CgroupBench.Proofs.Preflight
import CgroupBench.Proofs.SeriesFold

/-!
# Splitting a series

A series may be cut anywhere: its first records as a series of their own and, if that came to
its end, the others as another one, do what the whole does. Nothing is handed from a run to the
next but the runner and the measurements, and the restore after the first part has nothing to
do, since SMT is not owed after runs that came to their end.
-/
namespace CgroupBench

variable {σ α β : Type}

/-- What comes after a procedure matters only at the value it gives. -/
theorem Procedure.execute_bind_congr {host : Host σ} {first : Procedure α}
    {next other : α → Procedure β} {state : σ}
    (same : next (first.execute host state).value = other (first.execute host state).value) :
    (first >>= next).execute host state = (first >>= other).execute host state := by
  rw [execute_bind, execute_bind]
  dsimp only
  rw [same]

/-- Goes on with more records where those before came to their end. -/
def SeriesResult.andThen (next : List Measurement → Runner → Procedure (SeriesResult × Runner)) :
    SeriesResult × Runner → Procedure (SeriesResult × Runner)
  | (⟨.finished, measurements⟩, runner) => next measurements runner
  | (⟨.stopped fault, measurements⟩, runner) => return (⟨.stopped fault, measurements⟩, runner)
  | (⟨.panicked, measurements⟩, runner) => return (⟨.panicked, measurements⟩, runner)

/-- Two series in a row, the second only if the first came to its end. -/
def Runner.runSplit (workload : Workload) (first second : List Record)
    (measurements : List Measurement) (runner : Runner) : Procedure (SeriesResult × Runner) :=
  runner.runSeries workload first measurements >>= SeriesResult.andThen fun measurements runner =>
    runner.runSeries workload second measurements

namespace Runner

variable {workload : Workload} {optimizer : Optimizer}

theorem runEach_append (first second : List Record) (measurements : List Measurement)
    (runner : Runner) :
    runEach workload (first ++ second) measurements runner =
      runEach workload first measurements runner >>= SeriesResult.andThen
        (runEach workload second) := by
  induction first generalizing measurements runner with
  | nil => rfl
  | cons record rest ih =>
    rw [List.cons_append, runEach, runEach, bind_assoc]
    refine congrArg (run workload record runner >>= ·) (funext ?_)
    rintro ⟨ending, runner⟩
    cases ending with
    | completed measurement => exact ih _ _
    | failed fault =>
      dsimp only
      cases runner.policy with
      | abort => rfl
      | goOn => exact ih _ _
    | fatal fault measurement => rfl
    | panicked => rfl

/-- The last restore never makes a series go on. -/
theorem settle_andThen (fault : Fault) (measurements : List Measurement) (runner : Runner)
    (next : List Measurement → Runner → Procedure (SeriesResult × Runner)) :
    settle ⟨.stopped fault, measurements⟩ runner >>= SeriesResult.andThen next =
      settle ⟨.stopped fault, measurements⟩ runner := by
  cases owing : runner.machine.smtDisabled with
  | false =>
    rw [settle_settled owing]
    rfl
  | true =>
    rw [settle_owing owing]
    refine congrArg (Procedure.ask _) (funext fun reply => ?_)
    cases reply <;> rfl

/-- Some of the records of a series can be run as well. -/
theorem preflight_of_subset {part records : List Record} (some : part ≠ [])
    (within : part ⊆ records) (accepted : preflight optimizer records = .ok ()) :
    preflight optimizer part = .ok () := by
  obtain ⟨-, same, each⟩ := preflight_eq_ok.mp accepted
  refine preflight_eq_ok.mpr ⟨some, ?_, fun record mem => each record (within mem)⟩
  exact fun record mem other listed => same record (within mem) other (within listed)

end Runner

/-- A series and its two parts in a row have the same history on the same host, and leave the
same result, the same measurements, the same runner and the same host. -/
theorem series_splits (host : Host σ) (workload : Workload) (runner : Runner)
    (first second : List Record) (measurements : List Measurement) (state : σ)
    (settled : runner.machine.smtDisabled = false) (some : first ≠ []) (more : second ≠ [])
    (accepted : Runner.preflight runner.tools.optimizer (first ++ second) = .ok ()) :
    (runner.runSeries workload (first ++ second) measurements).execute host state =
      (runner.runSplit workload first second measurements).execute host state := by
  have firstAccepted := Runner.preflight_of_subset some (List.subset_append_left _ _) accepted
  have secondAccepted := Runner.preflight_of_subset more (List.subset_append_right _ _) accepted
  rw [Runner.runSplit, runSeries_eq accepted, runSeries_eq firstAccepted, Runner.runEach_append,
    bind_assoc, bind_assoc]
  refine Procedure.execute_bind_congr ?_
  have tools :=
    (runEach_told host workload first measurements runner state).1.tools
  have back := runEach_settled host workload first measurements state settled
  revert tools back
  rcases (runner.runEach workload first measurements).execute host state with
    ⟨⟨⟨ending, measured⟩, after⟩, left, history⟩
  intro tools back
  cases ending with
  | finished =>
    -- The restore after the first part has nothing to do.
    show (after.runEach workload second measured >>= _) =
      Runner.settle ⟨.finished, measured⟩ after >>= _
    have same : after.tools.optimizer = runner.tools.optimizer := congrArg Tools.optimizer tools
    rw [settle_settled (back nofun nofun), ← runSeries_eq (same ▸ secondAccepted)]
    rfl
  | stopped fault => exact (Runner.settle_andThen fault measured after _).symm
  | panicked => rfl

/-- The optimizer cannot be started for the first part, and the second part is run after it. -/
theorem series_splits_after_failed_start :
    let runner := Sample.site.fresh .goOn .on
    let first := [Sample.record .damon]
    let second := [Sample.record .baseline]
    Runner.preflight runner.tools.optimizer (first ++ second) = .ok () ∧
      (runner.runSeries Sample.workload (first ++ second) []).execute Sample.schedule.host
          (1, Sample.start) =
        (runner.runSplit Sample.workload first second []).execute Sample.schedule.host
          (1, Sample.start) ∧
      ((runner.runSplit Sample.workload first second []).execute Sample.schedule.host
        (1, Sample.start)).value.1.measurements.map (·.record) = second := by
  intro runner first second
  have accepted : Runner.preflight runner.tools.optimizer (first ++ second) = .ok () := rfl
  refine ⟨accepted, ?_, by decide +kernel⟩
  exact series_splits Sample.schedule.host Sample.workload runner first second []
    (1, Sample.start) rfl (List.cons_ne_nil _ _) (List.cons_ne_nil _ _) accepted

end CgroupBench
