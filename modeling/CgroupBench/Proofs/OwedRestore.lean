import CgroupBench.Proofs.FaultyHost
import CgroupBench.Proofs.Ledger
import CgroupBench.Proofs.Preflight
import CgroupBench.Proofs.RunOutcome
import CgroupBench.Proofs.SeriesFold

/-!
# A restore that is still owed

SMT that a run has switched off comes back when the run unwinds, or the run ends with the
failure of that restore and stops the series. A restore that was owed before the series began is
like that from the first run on that tries it. If no run has tried it and one of them stops the
series, then the last restore, should it fail too, is not what is reported. A series whose
records are refused tries nothing.
-/
namespace CgroupBench

variable {σ : Type}

/-- SMT is asked to come back, whatever the answer. -/
def Event.restores (site : Site) : Event → Bool
  | .called call _ => call == .write site.smtControl "on\n"
  | .noted _ => false

/-- No call of a preparation asks SMT to come back, whatever the paths. -/
theorem Site.Issues.restores {site : Site} {call : Call} {needed : List Reversal}
    (issued : site.Issues call needed) (reply : call.Reply) :
    Event.restores site (.called call reply) = false := by
  refine beq_false_of_ne fun same => ?_
  cases issued with
  | dropCaches => exact absurd (Call.write.inj same).2 (by decide)
  | limit memoryLimit =>
    have text := (Call.write.inj same).2
    exact numberLine_ne memoryLimit.toNat 'o' (by decide) (by decide) (by decide) text
  | _ => cases same

/-- The restore was owed before the first event, and nobody has tried it. -/
structure Dormant (site : Site) (owed : Bool) (history : List Event) : Prop where
  owed : owed = true
  untried : ∀ event ∈ history, event.restores site = false

theorem Dormant.snoc {site : Site} {owed : Bool} {history : List Event} {event : Event}
    (dormant : Dormant site owed history) (other : event.restores site = false) :
    Dormant site owed (history ++ [event]) where
  owed := dormant.owed
  untried earlier mem := by
    rcases List.mem_append.mp mem with mem | mem
    · exact dormant.untried earlier mem
    · rw [List.mem_singleton.mp mem]
      exact other

/-- What holds of a run until it unwinds: the restore is pending where it is owed, but for a debt
from before. -/
structure Pledges (site : Site) (owed : Bool) (needed : List Reversal) (runner : Runner)
    (history : List Event) : Prop extends runner.WorksAt site where
  listed : ∀ reversal ∈ needed, reversal ∈ runner.cleanup.pending
  pledged : runner.machine.smtDisabled = true →
    .enableSmt ∈ runner.cleanup.pending ∨ Dormant site owed history

/-- What holds while the reversals `todo` are still to come. -/
structure Pledging (site : Site) (owed : Bool) (faults : List Fault) (todo : List Reversal)
    (runner : Runner) (history : List Event) : Prop extends runner.WorksAt site where
  pledged : runner.machine.smtDisabled = true →
    .enableSmt ∈ todo ∨ (∃ fault ∈ faults, fault.isSmtRestore = true) ∨ Dormant site owed history

/-- What holds after an unwinding: its result tells of a restore that is owed, but for a debt
from before. -/
structure Told (site : Site) (owed : Bool) (result : Except Fault Unit) (runner : Runner)
    (history : List Event) : Prop extends runner.WorksAt site where
  told : runner.machine.smtDisabled = true →
    (∃ fault, result = .error fault ∧ fault.isSmtRestore = true) ∨ Dormant site owed history

/-- A failed restore of SMT is what an unwinding reports. -/
theorem verdict_isSmtRestore {faults : List Fault}
    (failed : ∃ fault ∈ faults, fault.isSmtRestore = true) :
    ∃ fault, verdict faults = .error fault ∧ fault.isSmtRestore = true := by
  obtain ⟨fault, mem, restore⟩ := failed
  rw [verdict]
  cases found : faults.find? Fault.isSmtRestore with
  | none => exact absurd restore (List.find?_eq_none.mp found fault mem)
  | some first => exact ⟨first, rfl, List.find?_some found⟩

section

variable {site : Site} {host : Host σ} {owed : Bool} {needed todo : List Reversal}
  {faults : List Fault} {runner : Runner} {history : List Event} {event : Event}

theorem Pledges.snoc (h : Pledges site owed needed runner history)
    (other : event.restores site = false) :
    Pledges site owed needed runner (history ++ [event]) where
  toWorksAt := h.toWorksAt
  listed := h.listed
  pledged disabled := (h.pledged disabled).imp id fun dormant => dormant.snoc other

theorem pledges_upholds :
    Upholds site (Watch.log host) fun needed runner history _ =>
      Pledges site owed needed runner history where
  worksAt h := h.toWorksAt
  relax h := ⟨h.toWorksAt, List.forall_mem_nil _, h.pledged⟩
  agrees same h := by
    refine ⟨h.toWorksAt.agrees same, ?_, ?_⟩
    · rw [same.cleanup]
      exact h.listed
    · rw [same.cleanup, same.smtDisabled]
      exact h.pledged
  aside _ h := ⟨trivial, h.snoc rfl⟩
  register {needed reversal runner history _} h _ := by
    have noted : Pledges site owed needed runner (history ++ [.noted (.registered reversal)]) :=
      h.snoc rfl
    refine ⟨trivial, { h.toWorksAt with }, Cleanup.mem_register h.listed, fun disabled => ?_⟩
    exact (noted.pledged disabled).imp (List.mem_append_left _) id
  call issued h := .ask fun reply _ _ => ⟨trivial, h.snoc (issued.restores reply)⟩
  smtOff _ h := by
    refine .ask fun reply _ _ => ⟨trivial, ?_⟩
    have other : Event.restores site (.called (.write site.smtControl "off\n") reply) = false :=
      beq_false_of_ne fun same => absurd (Call.write.inj same).2 (by decide)
    have noted := h.snoc other
    cases reply with
    | error cause => exact noted
    | ok _ => exact ⟨{ h.toWorksAt with }, h.listed, fun _ => .inl (h.listed _ (.head _))⟩

theorem Pledging.snoc (h : Pledging site owed faults todo runner history)
    (other : event.restores site = false) :
    Pledging site owed faults todo runner (history ++ [event]) where
  toWorksAt := h.toWorksAt
  pledged disabled :=
    (h.pledged disabled).imp id fun rest => rest.imp id fun dormant => dormant.snoc other

theorem pledging_unwinding (owed : Bool) (runner : Runner) :
    Unwinding site (Watch.log host) fun faults todo machine history _ =>
      Pledging site owed faults todo { runner with machine } history where
  control h := h.smtControl
  call {faults todo machine history _} reversal due h := by
    refine ⟨trivial, .ask fun reply _ _ => ⟨trivial, ?_⟩⟩
    have works := h.toWorksAt
    by_cases restore : reversal = .enableSmt
    · subst restore
      cases reply with
      | ok _ => exact ⟨{ works with }, nofun⟩
      | error cause =>
        refine ⟨nofun, fun _ => ⟨works, fun _ => .inr (.inl ⟨.smtRestore cause, ?_, rfl⟩)⟩⟩
        exact List.mem_append_right _ (.head _)
    -- Any other reversal leaves the debt as it is.
    · have other : Event.restores site (.called (reversal.call site) reply) = false := by
        refine beq_false_of_ne fun same => ?_
        cases reversal with
        | enableSmt => exact restore rfl
        | deleteCgroup _ | stopOptimizer => cases same
      have noted : Pledging site owed faults (reversal :: todo) { runner with machine }
          (history ++ [.noted (.reversing reversal)] ++ [.called (reversal.call site) reply]) :=
        (h.snoc rfl).snoc other
      have passed : ∀ more, Pledging site owed (faults ++ more) todo { runner with machine }
          (history ++ [.noted (.reversing reversal)] ++ [.called (reversal.call site) reply]) := by
        refine fun more => ⟨works, fun disabled => ?_⟩
        rcases noted.pledged disabled with listed | ⟨fault, mem, failed⟩ | dormant
        · exact .inl ((List.mem_cons.mp listed).resolve_left (Ne.symm restore))
        · exact .inr (.inl ⟨fault, List.mem_append_left _ mem, failed⟩)
        · exact .inr (.inr dormant)
      have settled : reversal.settle machine = machine := by
        cases reversal with
        | enableSmt => exact absurd rfl restore
        | deleteCgroup _ | stopOptimizer => rfl
      rw [settled]
      refine .either ?_ fun fault => passed [fault]
      have clean := passed []
      rw [List.append_nil] at clean
      exact clean
  settled settled h :=
    ⟨trivial, h.toWorksAt, fun disabled => absurd (settled.symm.trans disabled) Bool.false_ne_true⟩

theorem Told.snoc {result : Except Fault Unit} (h : Told site owed result runner history)
    (other : event.restores site = false) :
    Told site owed result runner (history ++ [event]) where
  toWorksAt := h.toWorksAt
  told disabled := (h.told disabled).imp id fun dormant => dormant.snoc other

/-- After an unwinding that went well only a debt from before is left. -/
theorem Told.dormant (h : Told site owed (.ok ()) runner history)
    (disabled : runner.machine.smtDisabled = true) : Dormant site owed history := by
  rcases h.told disabled with ⟨fault, failed, -⟩ | dormant
  · cases failed
  · exact dormant

theorem pledges_unwinds (host : Host σ) (owed : Bool) :
    Unwinds site (Watch.log host)
      (fun needed runner history _ => Pledges site owed needed runner history)
      (fun result runner history _ => Told site owed result runner history) where
  toUpholds := pledges_upholds
  tearDown {runner history _} h := by
    have noted : Pledges site owed [] runner (history ++ [.noted .drained]) := h.snoc rfl
    refine Watch.Ensures.mono ((pledging_unwinding owed runner).tearDown
      (fun faults runner history _ => Pledging site owed faults [] runner history) h.tools ?_ ?_) ?_
    · refine ⟨trivial, h.toWorksAt, fun disabled => ?_⟩
      exact (noted.pledged disabled).imp List.mem_reverse.mpr .inr
    · exact fun _ _ _ _ h => ⟨trivial, { h.toWorksAt with }, (h.snoc rfl).pledged⟩
    · rintro ⟨result, runner⟩ history _ ⟨faults, reported, h⟩
      refine ⟨h.toWorksAt, fun disabled => ?_⟩
      rcases h.pledged disabled with listed | failed | dormant
      · exact absurd listed List.not_mem_nil
      · obtain ⟨fault, same, restore⟩ := verdict_isSmtRestore failed
        exact .inl ⟨fault, reported.trans same, restore⟩
      · exact .inr dormant
  leave _ _ h := ⟨trivial, { h.toWorksAt with }, (h.snoc rfl).told⟩

/-- After the runs of a series the restore is owed only if its failure stopped them, or if the
debt is from before and nobody has tried. -/
theorem runEach_told (host : Host σ) (workload : Workload) (records : List Record)
    (measurements : List Measurement) (runner : Runner) (state : σ) :
    let loop := (Runner.runEach workload records measurements runner).execute host state
    loop.value.2.WorksAt runner.site ∧
      (loop.value.1.ending ≠ .panicked → loop.value.2.machine.smtDisabled = true →
        (∃ fault, loop.value.1.ending = .stopped fault ∧ fault.isSmtRestore = true) ∨
          Dormant runner.site runner.machine.smtDisabled loop.history) := by
  intro loop
  have start : Told runner.site runner.machine.smtDisabled (.ok ()) runner [] :=
    ⟨runner.worksAt_site, fun disabled => .inr ⟨disabled, List.forall_mem_nil _⟩⟩
  have again : ∀ {later history},
      Told runner.site runner.machine.smtDisabled (.ok ()) later history →
      Pledges runner.site runner.machine.smtDisabled [] later history := by
    intro later history h
    exact ⟨h.toWorksAt, List.forall_mem_nil _, fun disabled => .inr (h.dormant disabled)⟩
  have closed : Runner.Closed _ _ workload loop.value loop.history loop.host :=
    ((pledges_unwinds host runner.machine.smtDisabled).runEach again workload records measurements
      start).finished_ofHistory
  revert closed
  rcases loop with ⟨⟨⟨ending, measured⟩, after⟩, left, history⟩
  intro closed
  cases ending with
  | finished => exact ⟨closed.toWorksAt, fun _ disabled => .inr (closed.dormant disabled)⟩
  | stopped fault =>
    rcases closed with closed | closed
    · refine ⟨closed.toWorksAt, fun _ disabled => ?_⟩
      refine (closed.told disabled).imp (fun ⟨other, same, restore⟩ => ?_) id
      obtain rfl := Except.error.inj same
      exact ⟨fault, rfl, restore⟩
    · exact ⟨closed.toWorksAt, fun _ disabled => .inr (closed.dormant disabled)⟩
  | panicked => exact ⟨closed.1.toWorksAt, fun calm => absurd rfl calm⟩

/-- After the runs of a series that began with nothing owed, nothing is owed unless they end with
the failure of a restore. -/
theorem runEach_settled (host : Host σ) (workload : Workload) (records : List Record)
    (measurements : List Measurement) {runner : Runner} (state : σ)
    (settled : runner.machine.smtDisabled = false) :
    let loop := (Runner.runEach workload records measurements runner).execute host state
    loop.value.1.ending ≠ .panicked →
      (∀ fault, loop.value.1.ending = .stopped fault → fault.isSmtRestore = false) →
      loop.value.2.machine.smtDisabled = false := by
  intro loop calm unrelated
  by_contra owed
  obtain ⟨-, told⟩ := runEach_told host workload records measurements runner state
  rcases told calm (by simpa using owed) with ⟨fault, stopped, restore⟩ | dormant
  · exact absurd ((unrelated fault stopped).symm.trans restore) Bool.false_ne_true
  · exact absurd (settled.symm.trans dormant.owed) Bool.false_ne_true

end

/-- SMT is still owed after the last restore only if that restore failed. -/
theorem settle_disabled (host : Host σ) {result : SeriesResult} {runner : Runner} {state : σ}
    (disabled :
      ((Runner.settle result runner).execute host state).value.2.machine.smtDisabled = true) :
    runner.machine.smtDisabled = true ∧ ∃ cause left,
      (Runner.settle result runner).execute host state =
        ⟨({ result with ending := result.ending.report (.smtRestore cause) }, runner), left,
          [.called (.write runner.machine.smtControl "on\n") (.error cause)]⟩ := by
  cases owing : runner.machine.smtDisabled with
  | false =>
    rw [settle_settled owing] at disabled
    exact absurd (owing.symm.trans disabled) Bool.false_ne_true
  | true =>
    rw [settle_owing owing, Procedure.execute] at disabled ⊢
    revert disabled
    rcases host.answer state (.write runner.machine.smtControl "on\n") with ⟨cause | _, left⟩
    · exact fun _ => ⟨rfl, cause, left, rfl⟩
    · exact fun owed => absurd owed Bool.false_ne_true

/-- SMT is still off after a series whose records were refused, or whose last call was a restore
that failed. In the second case the series is stopped; it is told of the restore if SMT was not
owed before, if the runs came to their end, or if one of them tried to restore it. -/
theorem owed_restore_reported (host : Host σ) (runner : Runner) (workload : Workload)
    (records : List Record) (measurements : List Measurement) (state : σ) :
    let series := (runner.runSeries workload records measurements).execute host state
    let runs := (Runner.runEach workload records measurements runner).execute host state
    series.value.1.ending ≠ .panicked → series.value.2.machine.smtDisabled = true →
      (∃ reason,
        Runner.preflight runner.tools.optimizer records = .error (.configuration reason) ∧
          series = ⟨(⟨.stopped (.configuration reason), measurements⟩, runner), state, []⟩) ∨
      (Runner.preflight runner.tools.optimizer records = .ok () ∧ ∃ cause fault,
        series.history = runs.history ++
          [.called (.write runner.machine.smtControl "on\n") (.error cause)] ∧
        series.value.1.ending = .stopped fault ∧
        (runner.machine.smtDisabled = false ∨ runs.value.1.ending = .finished ∨
          (∃ event ∈ runs.history, event.restores runner.site = true) →
          fault.isSmtRestore = true)) := by
  intro series runs calm disabled
  cases checked : Runner.preflight runner.tools.optimizer records with
  | error fault =>
    have refused : series = ⟨(⟨.stopped fault, measurements⟩, runner), state, []⟩ :=
      congrArg (·.execute host state) (runSeries_refused checked)
    cases fault with
    | configuration reason => exact .inl ⟨reason, rfl, refused⟩
    | _ => cases Runner.blames_preflight _ checked
  | ok _ =>
    refine .inr ⟨rfl, ?_⟩
    obtain ⟨works, told⟩ := runEach_told host workload records measurements runner state
    have composed : series =
        let rest := (if runs.value.1.ending = .panicked then .finish runs.value
          else Runner.settle runs.value.1 runs.value.2 : Procedure _).execute host runs.host
        { rest with history := runs.history ++ rest.history } :=
      (congrArg (·.execute host state) (runSeries_eq checked)).trans (Procedure.execute_bind ..)
    by_cases broke : runs.value.1.ending = .panicked
    · rw [if_pos broke] at composed
      rw [composed] at calm
      exact absurd broke calm
    · rw [if_neg broke] at composed
      rw [composed] at disabled
      obtain ⟨owing, cause, left, settled⟩ := settle_disabled host disabled
      rw [settled] at composed
      have why := told broke owing
      have control : runs.value.2.machine.smtControl = runner.machine.smtControl := works.smtControl
      rw [composed, ← control]
      cases ending : runs.value.1.ending with
      | finished =>
        exact ⟨cause, .smtRestore cause, rfl, rfl, fun _ => rfl⟩
      | panicked => exact absurd ending broke
      | stopped fault =>
        refine ⟨cause, fault, rfl, rfl, fun known => ?_⟩
        rcases why with ⟨other, same, restore⟩ | dormant
        · rw [ending] at same
          exact SeriesEnd.stopped.inj same ▸ restore
        · rcases known with settled | finished | ⟨event, mem, tried⟩
          · exact absurd (settled.symm.trans dormant.owed) Bool.false_ne_true
          · cases finished
          · exact absurd ((dormant.untried event mem).symm.trans tried) Bool.false_ne_true

namespace Sample

/-- SMT cannot be switched on, and the optimizer cannot be asked to stop. -/
def jammed : Schedule site where
  force _ call :=
    if call = .write site.smtControl "on\n" ∨ call = .run site.tools.optimizer.stopArgv then
      some (.access "write" site.smtControl (.numbered 5))
    else none
  never_absent time variant cause forced := by
    split at forced
    · obtain rfl := Option.some.inj forced
      rfl
    · cases forced
  never_stopped time cause forced := by
    split at forced
    · obtain rfl := Option.some.inj forced
      rfl
    · cases forced

/-- A run that switches SMT off; neither its unwinding nor the last restore brings it back. -/
def onJammed : Execution (Nat × Footprint) (SeriesResult × Runner) :=
  ((site.fresh .abort .on).runSeries workload [record .damon] []).execute jammed.host (0, start)

/-- A run on a machine that owes the restore from before. -/
def indebted (tools : Tools) (variant : Variant) : Execution (Nat × Footprint)
    (SeriesResult × Runner) :=
  let runner : Runner := { tools, machine := .owing Machine.defaultSmtControl }
  (runner.runSeries workload [record variant] []).execute jammed.host (0, start)

end Sample

theorem owed_restore_reported_on_jammed :
    Sample.onJammed.value.1.ending ≠ .panicked ∧
      Sample.onJammed.value.2.machine.smtDisabled = true ∧
      ∃ fault, Sample.onJammed.value.1.ending = .stopped fault ∧ fault.isSmtRestore = true := by
  have calm : Sample.onJammed.value.1.ending ≠ .panicked := by decide +kernel
  have disabled : Sample.onJammed.value.2.machine.smtDisabled = true := by decide +kernel
  have accepted :
      Runner.preflight Sample.site.tools.optimizer [Sample.record .damon] = .ok () := rfl
  refine ⟨calm, disabled, ?_⟩
  rcases owed_restore_reported Sample.jammed.host (Sample.site.fresh .abort .on) Sample.workload
    [Sample.record .damon] [] (0, Sample.start) calm disabled with
    ⟨reason, refused, -⟩ | ⟨-, cause, fault, -, ending, told⟩
  · cases accepted.symm.trans refused
  · exact ⟨fault, ending, told (.inl rfl)⟩

/-- A record that is refused, and one whose run fails before it comes to SMT, each end a series
after which a restore from before is still owed; what is reported is not that. -/
theorem owed_restore_unreported :
    ((Sample.indebted {} .damon).value.2.machine.smtDisabled = true ∧
      (Sample.indebted {} .damon).value.1.ending =
        .stopped (.configuration "damon_test runs require an optimizer config")) ∧
    (Sample.indebted Sample.site.tools .baseline).value.2.machine.smtDisabled = true ∧
      (Sample.indebted Sample.site.tools .baseline).value.1.ending =
        .stopped (.setup "ensure optimizer stopped"
          (.access "write" Machine.defaultSmtControl (.numbered 5))) := by
  decide +kernel

end CgroupBench
