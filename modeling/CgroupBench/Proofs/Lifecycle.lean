import CgroupBench.Proofs.Preparation

/-!
# Invariants of a series

With an invariant of a run until it unwinds, and what is known after an unwinding by how it
went, each end of a run is accounted for. A series goes on only after unwindings that went
well.
-/
namespace CgroupBench

section

variable {σ κ : Type}

/-- What is known at the end of a series. -/
def Runner.Closed (inv : Runner → κ → σ → Prop)
    (after : Except Fault Unit → Runner → κ → σ → Prop) (workload : Workload) :
    SeriesResult × Runner → κ → σ → Prop
  | (⟨.finished, _⟩, runner), account, state => after (.ok ()) runner account state
  | (⟨.stopped fault, _⟩, runner), account, state =>
    after (.error fault) runner account state ∨ after (.ok ()) runner account state
  | (⟨.panicked, _⟩, runner), account, state =>
    inv runner account state ∧ workload.Panics

variable (site : Site) (watch : Watch σ κ) (inv : List Reversal → Runner → κ → σ → Prop)
  (after : Except Fault Unit → Runner → κ → σ → Prop)

structure Unwinds : Prop extends Upholds site watch inv where
  tearDown {runner account state} : inv [] runner account state →
    watch.Ensures (Runner.tearDown runner) account state fun out => after out.1 out.2
  leave {result runner account state} (stage : Stage) : stage ≠ .idle →
    after result runner account state →
    watch.Ensures (Runner.enter stage runner) account state fun out => after result out.2

/-- After an unwinding that went well the next run may begin. -/
structure Repeats : Prop extends Unwinds site watch inv after where
  again {runner account state} : after (.ok ()) runner account state → inv [] runner account state
  enable {result runner account state} : after result runner account state →
    watch.Ensures (Runner.onMachine Machine.enableSmt runner) account state
      fun out account state => after result out.2 account state ∧
        ∀ fault, out.1 = .error fault → after (.error fault) out.2 account state

end

variable {σ κ : Type} {site : Site} {watch : Watch σ κ}
  {inv : List Reversal → Runner → κ → σ → Prop}
  {after : Except Fault Unit → Runner → κ → σ → Prop}
  {runner : Runner} {account : κ} {state : σ}

namespace Unwinds

variable (unwinds : Unwinds site watch inv after)
include unwinds

theorem closes : Closes watch after (inv []) where
  enter stage _ h := unwinds.enter stage h
  tearDown h := unwinds.tearDown h
  leave stage busy h := unwinds.leave stage busy h

theorem run (workload : Workload) (record : Record) (h : inv [] runner account state) :
    watch.Ensures (Runner.run workload record runner) account state
      (Runner.Ended (inv []) after workload) := by
  refine ((unwinds.conduct workload record).run unwinds.closes (fun _ _ _ _ h => h)
    (fun _ _ _ _ h => h) h).mono fun _ _ _ ended => ?_
  exact ended.mono (fun _ _ _ h => h.elim id fun ⟨_, h⟩ => h) fun _ _ _ _ h => h

/-- The runs of a series, if after an unwinding that went well the next one may begin. -/
theorem runEach
    (again : ∀ {runner account state}, after (.ok ()) runner account state →
      inv [] runner account state)
    (workload : Workload) (records : List Record) (measurements : List Measurement)
    (h : after (.ok ()) runner account state) :
    watch.Ensures (Runner.runEach workload records measurements runner) account state
      (Runner.Closed (inv []) after workload) := by
  induction records generalizing measurements runner account state with
  | nil => exact h
  | cons record rest ih =>
    refine (unwinds.run workload record (again h)).andThen ?_
    rintro ⟨ending, runner⟩ account state h
    cases ending with
    | completed measurement => exact ih _ h
    | failed fault =>
      dsimp only
      cases runner.policy with
      | goOn => exact ih _ h
      | abort => exact .inr h
    | fatal fault measurement => exact h
    | panicked => exact h

end Unwinds

namespace Repeats

variable (repeats : Repeats site watch inv after)
include repeats

theorem settle (workload : Workload) (result : SeriesResult)
    (h : Runner.Closed (inv []) after workload (result, runner) account state)
    (calm : result.ending ≠ .panicked) :
    watch.Ensures (Runner.settle result runner) account state
      (Runner.Closed (inv []) after workload) := by
  obtain ⟨ending, measurements⟩ := result
  cases ending with
  | panicked => exact absurd rfl calm
  | finished =>
    refine (repeats.enable h).andThen ?_
    rintro ⟨fault | _, runner⟩ account state ⟨h, failed⟩
    · exact .inl (failed fault rfl)
    · exact h
  | stopped fault =>
    rcases h with h | h
    · refine (repeats.enable h).andThen ?_
      rintro ⟨_ | _, runner⟩ account state ⟨h, -⟩ <;> exact .inl h
    · refine (repeats.enable h).andThen ?_
      rintro ⟨_ | _, runner⟩ account state ⟨h, -⟩ <;> exact .inr h

theorem runSeries (workload : Workload) (records : List Record) (measurements : List Measurement)
    (h : after (.ok ()) runner account state) :
    watch.Ensures (Runner.runSeries workload records measurements runner) account state
      (Runner.Closed (inv []) after workload) := by
  rw [Runner.runSeries]
  cases Runner.preflight runner.tools.optimizer records with
  | error fault => exact .inr h
  | ok _ =>
    refine (repeats.toUnwinds.runEach repeats.again workload records measurements h).andThen ?_
    rintro ⟨⟨ending, measurements⟩, runner⟩ account state h
    cases ending with
    | panicked => exact h
    | finished => exact repeats.settle workload _ h SeriesEnd.noConfusion
    | stopped fault => exact repeats.settle workload _ h SeriesEnd.noConfusion

end Repeats
end CgroupBench
