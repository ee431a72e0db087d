import CgroupBench.Proofs.Conduct
import CgroupBench.Proofs.Ending
import CgroupBench.Proofs.FaultyHost
import CgroupBench.Proofs.Undoing
import CgroupBench.Proofs.Unwinding

/-!
# A series is the fold of its runs

Let each record be run where the run before it ended. A series makes these runs up to the
first whose end stops it, collects what they measured, ends as that run did, and does nothing
else: SMT is not owed after any of the runs that let it go on. The host is arbitrary.
-/
namespace CgroupBench

variable {σ : Type}

/-- The fault with which a run ends the series, if it does. -/
def RunEnd.stop? (policy : FailurePolicy) : RunEnd → Option Fault
  | fatal fault _ => some fault
  | failed fault =>
    match policy with
    | .abort => some fault
    | .goOn => none
  | completed _ | panicked => none

namespace Runner

/-- Every record is run, each where the one before it ended. -/
def runs (host : Host σ) (workload : Workload) :
    List Record → Runner → σ → List (Execution σ (RunEnd × Runner))
  | [], _, _ => []
  | record :: rest, runner, state =>
    let execution := (run workload record runner).execute host state
    execution :: runs host workload rest execution.value.2 execution.host

end Runner

def Execution.stops (policy : FailurePolicy) (run : Execution σ (RunEnd × Runner)) : Bool :=
  (run.value.1.stop? policy).isSome

/-- The runs up to the first that ends the series. -/
def executedRuns (policy : FailurePolicy) (runs : List (Execution σ (RunEnd × Runner))) :
    List (Execution σ (RunEnd × Runner)) :=
  runs.take (runs.findIdx (·.stops policy) + 1)

def seriesEnd (policy : FailurePolicy) (runs : List (Execution σ (RunEnd × Runner))) : SeriesEnd :=
  match runs.findSome? (·.value.1.stop? policy) with
  | some fault => .stopped fault
  | none => .finished

section

variable {policy : FailurePolicy} {run : Execution σ (RunEnd × Runner)}
  (runs : List (Execution σ (RunEnd × Runner)))

theorem executedRuns_cons_stop (stops : run.stops policy = true) :
    executedRuns policy (run :: runs) = [run] := by
  simp [executedRuns, List.findIdx_cons, stops]

theorem executedRuns_cons_goOn (goesOn : run.stops policy = false) :
    executedRuns policy (run :: runs) = run :: executedRuns policy runs := by
  simp [executedRuns, List.findIdx_cons, goesOn]

theorem seriesEnd_cons_stop {fault : Fault} (stop : run.value.1.stop? policy = some fault) :
    seriesEnd policy (run :: runs) = .stopped fault := by
  simp [seriesEnd, stop]

theorem seriesEnd_cons_goOn (goesOn : run.value.1.stop? policy = none) :
    seriesEnd policy (run :: runs) = seriesEnd policy runs := by
  simp [seriesEnd, goesOn]

end

theorem seriesEnd_ne_panicked (policy : FailurePolicy)
    (runs : List (Execution σ (RunEnd × Runner))) : seriesEnd policy runs ≠ .panicked := by
  unfold seriesEnd
  split <;> exact nofun

/-! SMT is switched off only once its restore is pending, and an unwinding that went well has
brought it back. -/

/-- What holds of a run until it unwinds. -/
structure Redeems (site : Site) (policy : FailurePolicy) (runner : Runner) :
    Prop extends runner.WorksAt site where
  policy : runner.policy = policy
  owed : runner.machine.smtDisabled = true → .enableSmt ∈ runner.cleanup.pending

/-- What holds while the reversals `todo` are still to come. -/
structure Redeeming (site : Site) (policy : FailurePolicy) (faults : List Fault)
    (todo : List Reversal) (runner : Runner) : Prop extends runner.WorksAt site where
  policy : runner.policy = policy
  owed : faults = [] → runner.machine.smtDisabled = true → .enableSmt ∈ todo

/-- What holds between runs, and after one that ended the series. -/
structure Redeemed (site : Site) (policy : FailurePolicy) (result : Except Fault Unit)
    (runner : Runner) : Prop extends runner.WorksAt site where
  policy : runner.policy = policy
  settled : result = .ok () → runner.machine.smtDisabled = false

section

variable {site : Site} {host : Host σ} {workload : Workload} {target : Target}
  {invocation : Invocation} {policy : FailurePolicy}

theorem redeem_course :
    Course site (Watch.plain host) workload target invocation
      (fun at' runner _ _ => Redeems site policy runner ∧
        (at' = .staked → .enableSmt ∈ runner.cleanup.pending))
      (fun _ runner _ _ => Redeems site policy runner) where
  worksAt h := h.1.toWorksAt
  follows same h := by
    refine ⟨⟨h.1.toWorksAt.agrees same.toAgrees, same.policy.trans h.1.policy, ?_⟩, ?_⟩
    · rw [same.smtDisabled, same.cleanup]
      exact h.1.owed
    · rw [same.cleanup]
      exact h.2
  passing _ h := ⟨trivial, h⟩
  skip skips h := ⟨h.1, by cases skips <;> nofun⟩
  registered registers _ h := by
    refine ⟨trivial, ⟨{ h.1.toWorksAt with }, h.1.policy, fun owed => ?_⟩, ?_⟩
    · exact List.mem_append_left _ (h.1.owed owed)
    · cases registers with
      | deletion | stop _ => exact nofun
      | restore => exact fun _ => List.mem_append_right _ (.head _)
  call calls h :=
    .ask fun _ _ _ => ⟨trivial, .either ⟨h.1, by cases calls <;> nofun⟩ fun _ => h.1⟩
  retry retries h := by
    refine .ask fun reply _ _ => ⟨trivial, ?_⟩
    rcases reply with cause | _
    · exact ⟨fun _ => h, h.1⟩
    · exact ⟨h.1, by cases retries <;> nofun⟩
  undescribed _ _ h := h.1
  occupied _ h := ⟨trivial, ⟨{ h.1.toWorksAt with }, h.1.policy, h.1.owed⟩, nofun⟩
  abandoned h := ⟨trivial, { h.toWorksAt with }, h.policy, h.owed⟩
  smtOff _ h := by
    refine .ask fun reply _ _ => ⟨trivial, ?_⟩
    rcases reply with cause | _
    · exact ⟨fun _ => ⟨h.1, nofun⟩, fun _ => h.1⟩
    · exact ⟨⟨{ h.1.toWorksAt with }, h.1.policy, fun _ => h.2 rfl⟩, nofun⟩
  faulty _ h := h.1

theorem redeem_unwinding (policy : FailurePolicy) (runner : Runner) :
    Unwinding site (Watch.plain host) (fun faults todo machine _ _ =>
      Redeeming site policy faults todo { runner with machine }) where
  control h := h.smtControl
  call {faults todo machine _ state} reversal _ h := by
    refine ⟨trivial, .ask fun reply _ _ => ⟨trivial, ?_⟩⟩
    refine .either ?_ fun fault => ⟨h.toWorksAt, h.policy, fun none => absurd none (by simp)⟩
    cases reversal with
    | enableSmt => exact ⟨{ h.toWorksAt with }, h.policy, nofun⟩
    | deleteCgroup _ | stopOptimizer =>
      exact ⟨h.toWorksAt, h.policy, fun none owed => by simpa using h.owed none owed⟩
  settled settled h :=
    ⟨trivial, h.toWorksAt, h.policy,
      fun _ owed => absurd (settled.symm.trans owed) Bool.false_ne_true⟩

theorem redeem_closes :
    Closes (Watch.plain host) (fun result runner _ _ => Redeemed site policy result runner)
      (fun runner _ _ => Redeems site policy runner) where
  enter _ _ h := ⟨trivial, { h.toWorksAt with }, h.policy, h.owed⟩
  leave _ _ h := ⟨trivial, { h.toWorksAt with }, h.policy, h.settled⟩
  tearDown {runner _ state} h := by
    refine Watch.Ensures.mono ((redeem_unwinding policy runner).tearDown
      (fun faults runner _ _ => Redeeming site policy faults [] runner) h.tools ?_ ?_) ?_
    · exact ⟨trivial, h.toWorksAt, h.policy, fun _ owed => List.mem_reverse.mpr (h.owed owed)⟩
    · exact fun _ _ _ _ h => ⟨trivial, { h.toWorksAt with }, h.policy, h.owed⟩
    · rintro ⟨result, runner⟩ _ _ ⟨faults, rfl, h⟩
      refine ⟨h.toWorksAt, h.policy, fun ok => ?_⟩
      by_contra owed
      exact List.not_mem_nil (h.owed (verdict_ok ok) (by simpa using owed))

theorem redeem_conduct (record : Record) :
    Conduct site (Watch.plain host) workload record
      (fun runner _ _ => Redeemed site policy (.ok ()) runner)
      (fun runner _ _ => Redeemed site policy (.ok ()) runner)
      (fun _ at' runner _ _ => Redeems site policy runner ∧
        (at' = .staked → .enableSmt ∈ runner.cleanup.pending))
      (fun _ runner _ _ => Redeems site policy runner) where
  begun _ _ _ h := ⟨trivial, trivial, { h.toWorksAt with }, h.policy, h.settled⟩
  refused _ h :=
    ⟨h.toWorksAt, h.policy, fun owed => absurd ((h.settled rfl).symm.trans owed) Bool.false_ne_true⟩
  start h :=
    ⟨⟨h.toWorksAt, h.policy,
      fun owed => absurd ((h.settled rfl).symm.trans owed) Bool.false_ne_true⟩, nofun⟩
  course _ _ := redeem_course

/-- A run that begins with nothing owed ends so too, unless its unwinding failed. -/
theorem run_redeems (host : Host σ) (workload : Workload) (record : Record) {runner : Runner}
    (state : σ) (h : Redeemed site policy (.ok ()) runner) :
    Runner.Ended (fun _ _ _ => True) (fun result runner _ _ => Redeemed site policy result runner)
      workload ((Runner.run workload record runner).execute host state).value ()
      ((Runner.run workload record runner).execute host state).host := by
  have ended : (Watch.plain host).Ensures (Runner.run workload record runner) () state _ :=
    (redeem_conduct record).run redeem_closes (fun _ _ _ _ h => h.1) (fun _ _ _ _ h => h) h
  exact ended.finished.mono (fun _ _ _ _ => trivial) fun _ _ _ _ h => h

theorem attempt_delivers (host : Host σ) (workload : Workload) (record : Record) :
    (Watch.plain host).Delivers (fun _ _ _ => True) (Runner.attempt workload record)
      (fun measured _ _ _ => ∀ measurement, measured = some measurement →
        measurement.record = record) (fun _ _ _ _ => True) := by
  refine Watch.Delivers.plain.bind fun _ => Watch.Delivers.plain.bind fun prepared => ?_
  cases prepared with
  | none => exact fun _ _ _ _ => nofun
  | some prepared =>
    refine Watch.Delivers.plain.bind fun _ => Watch.Delivers.plain.bind fun timed => ?_
    refine Watch.Delivers.plain.bind fun _ => Watch.Delivers.plain.bind fun _ => ?_
    intro runner _ state _
    cases seen : workload.inspect timed.output timed.elapsed with
    | measured metrics => exact fun _ same => Option.some.inj same ▸ rfl
    | faulty fault => trivial
    | panicked => exact nofun

/-- Whatever is measured is of the record that was run, whoever runs it. -/
theorem record_of_run {host : Host σ} {record : Record} {runner : Runner} {state : σ}
    {measurement : Measurement}
    (left : ((Runner.run workload record runner).execute host state).value.1.measurement? =
      some measurement) : measurement.record = record := by
  by_cases broke : ((Runner.attempt workload record runner).execute host state).value.1 = .ok none
  · rw [(Runner.run_execute_broken host broke).1] at left
    cases left
  · obtain ⟨_, _, value, -⟩ := Runner.run_execute host broke
    rw [value] at left
    have same := RunEnd.measurement?_ofPhases left
    have measured : Watch.Outcome _ _
        ((Runner.attempt workload record runner).execute host state).value () _ :=
      (attempt_delivers host workload record runner () state trivial).finished
    revert same measured
    rcases ((Runner.attempt workload record runner).execute host state).value with ⟨result, after⟩
    rintro rfl measured
    exact measured _ rfl

/-- The loop over the records does what its runs say. -/
structure Folds (site : Site) (policy : FailurePolicy)
    (runs : List (Execution σ (RunEnd × Runner))) (measurements : List Measurement)
    (loop : Execution σ (SeriesResult × Runner)) : Prop where
  result : loop.value.1 = ⟨seriesEnd policy runs, measurements ++
    (executedRuns policy runs).filterMap (·.value.1.measurement?)⟩
  history : loop.history = (executedRuns policy runs).flatMap (·.history)
  worksAt : loop.value.2.WorksAt site
  settled : seriesEnd policy runs = .finished → loop.value.2.machine.smtDisabled = false

section

variable {run : Execution σ (RunEnd × Runner)} {runs : List (Execution σ (RunEnd × Runner))}
  {measurements measured : List Measurement} {loop : Execution σ (SeriesResult × Runner)}

theorem Folds.goOn (h : Folds site policy runs measured loop)
    (goesOn : run.value.1.stop? policy = none)
    (same : measured = measurements ++ run.value.1.measurement?.toList) :
    Folds site policy (run :: runs) measurements
      { loop with history := run.history ++ loop.history } := by
  have stops : run.stops policy = false := by rw [Execution.stops, goesOn]; rfl
  have executed := executedRuns_cons_goOn runs stops
  have ending := seriesEnd_cons_goOn runs goesOn
  refine ⟨?_, ?_, h.worksAt, fun finished => h.settled (ending ▸ finished)⟩
  · rw [h.result, ending, executed, same, List.append_assoc]
    cases left : run.value.1.measurement? <;> simp [left]
  · rw [h.history, executed, List.flatMap_cons]

theorem Folds.stop {fault : Fault} (stop : run.value.1.stop? policy = some fault)
    (works : run.value.2.WorksAt site)
    (same : measured = measurements ++ run.value.1.measurement?.toList) :
    Folds site policy (run :: runs) measurements
      ⟨(⟨.stopped fault, measured⟩, run.value.2), run.host, run.history ++ []⟩ := by
  have stops : run.stops policy = true := by rw [Execution.stops, stop]; rfl
  have executed := executedRuns_cons_stop runs stops
  have ending := seriesEnd_cons_stop runs stop
  refine ⟨?_, ?_, works, fun finished => absurd (ending.symm.trans finished) nofun⟩
  · rw [ending, executed, same]
    cases left : run.value.1.measurement? <;> simp [left]
  · rw [executed, List.flatMap_cons]
    rfl

end

theorem runEach_folds (host : Host σ) (calm : ¬ workload.Panics) (records : List Record)
    (measurements : List Measurement) (runner : Runner) (state : σ)
    (h : Redeemed site policy (.ok ()) runner) :
    Folds site policy (runner.runs host workload records state) measurements
      ((Runner.runEach workload records measurements runner).execute host state) := by
  induction records generalizing measurements runner state with
  | nil =>
    refine ⟨?_, rfl, h.toWorksAt, fun _ => h.settled rfl⟩
    simp [Runner.runs, executedRuns, seriesEnd, Runner.runEach, Procedure.execute, pure]
  | cons record rest ih =>
    have ended := run_redeems host workload record state h
    rw [Runner.runs, Runner.runEach, Procedure.execute_bind]
    revert ended
    rcases (Runner.run workload record runner).execute host state with
      ⟨⟨ending, after⟩, left, history⟩
    intro ended
    cases ending with
    | completed measurement => exact Folds.goOn (ih _ after left ended) rfl rfl
    | failed fault =>
      have next : Redeemed site policy (.ok ()) after := ended
      dsimp only
      rw [next.policy]
      cases policy with
      | abort => exact Folds.stop rfl next.toWorksAt (List.append_nil _).symm
      | goOn => exact Folds.goOn (ih _ after left next) rfl (List.append_nil _).symm
    | fatal fault measurement =>
      have works : after.WorksAt site :=
        Or.elim ended (fun h => h.toWorksAt) (fun h => h.toWorksAt)
      exact Folds.stop rfl works rfl
    | panicked => exact absurd ended.2 calm

/-- How a series ends if this fault is met after its runs. -/
def SeriesEnd.report (fault : Fault) : SeriesEnd → SeriesEnd
  | finished => stopped fault
  | ending => ending

theorem settle_settled {runner : Runner} (settled : runner.machine.smtDisabled = false)
    (result : SeriesResult) : Runner.settle result runner = .finish (result, runner) := by
  obtain ⟨ending, measurements⟩ := result
  rw [Runner.settle, Runner.onMachine, Step.onPart, Machine.enableSmt_settled settled]
  cases ending <;> rfl

theorem settle_owing {runner : Runner} (owing : runner.machine.smtDisabled = true)
    (result : SeriesResult) :
    Runner.settle result runner = .ask (.write runner.machine.smtControl "on\n") fun reply =>
      match reply with
      | .ok () =>
        .finish (result, { runner with machine := { runner.machine with smtDisabled := false } })
      | .error cause =>
        .finish ({ result with ending := result.ending.report (.smtRestore cause) }, runner) := by
  obtain ⟨ending, measurements⟩ := result
  rw [Runner.settle, Runner.onMachine, Step.onPart, Machine.enableSmt_owing owing]
  refine congrArg (Procedure.ask _) (funext fun reply => ?_)
  rcases reply with cause | _ <;> cases ending <;> rfl

/-- The last restore changes no result where it has nothing left to do, or something else was
reported already. -/
theorem settle_execute (host : Host σ) (result : SeriesResult) (runner : Runner) (state : σ)
    (settled : result.ending = .finished → runner.machine.smtDisabled = false) :
    let settling := (Runner.settle result runner).execute host state
    settling.value.1 = result ∧
      (runner.machine.smtDisabled = false → settling.history = []) ∧
      ∀ event ∈ settling.history, ∃ reply,
        event = .called (.write runner.machine.smtControl "on\n") reply := by
  obtain ⟨ending, measurements⟩ := result
  cases owing : runner.machine.smtDisabled with
  | false =>
    rw [settle_settled owing]
    exact ⟨rfl, fun _ => rfl, fun _ mem => absurd mem List.not_mem_nil⟩
  | true =>
    have same : ∀ fault, SeriesEnd.report fault ending = ending := by
      intro fault
      cases ending with
      | finished => exact absurd ((settled rfl).symm.trans owing) Bool.false_ne_true
      | stopped _ | panicked => rfl
    rw [settle_owing owing, Procedure.execute]
    rcases host.answer state (.write runner.machine.smtControl "on\n") with ⟨reply, left⟩
    refine ⟨?_, fun settled => absurd settled.symm Bool.false_ne_true, ?_⟩
    · cases reply with
      | ok _ => rfl
      | error cause => exact congrArg (SeriesResult.mk · measurements) (same _)
    · cases reply <;> exact fun event mem => ⟨_, List.mem_singleton.mp mem⟩

theorem runs_getElem (host : Host σ) (workload : Workload) {records : List Record}
    {runner : Runner} {state : σ} {index : Nat} {run : Execution σ (RunEnd × Runner)}
    {measurement : Measurement}
    (now : (runner.runs host workload records state)[index]? = some run)
    (left : run.value.1.measurement? = some measurement) :
    records[index]? = some measurement.record := by
  induction records generalizing runner state index with
  | nil => simp [Runner.runs] at now
  | cons record rest ih =>
    cases index with
    | zero =>
      obtain rfl := Option.some.inj now
      exact congrArg some (record_of_run left).symm
    | succ index => exact ih now

/-- A series that is refused leaves everything as it was. -/
theorem runSeries_refused {workload : Workload} {records : List Record}
    {measurements : List Measurement} {runner : Runner} {fault : Fault}
    (refused : Runner.preflight runner.tools.optimizer records = .error fault) :
    runner.runSeries workload records measurements =
      .finish (⟨.stopped fault, measurements⟩, runner) := by
  rw [Runner.runSeries, refused]
  rfl

/-- After the loop comes the last restore, unless the workload broke down. -/
theorem runSeries_eq {runner : Runner} {records : List Record} {measurements : List Measurement}
    (accepted : Runner.preflight runner.tools.optimizer records = .ok ()) :
    Runner.runSeries workload records measurements runner =
      Runner.runEach workload records measurements runner >>= fun loop =>
        if loop.1.ending = .panicked then return loop else Runner.settle loop.1 loop.2 := by
  unfold Runner.runSeries
  rw [accepted]
  refine congrArg (Runner.runEach workload records measurements runner >>= ·) ?_
  funext loop
  rcases loop with ⟨⟨_ | _ | _, measured⟩, after⟩ <;> rfl

/-- The runs are those of each record where the run before it ended. Each of them up to the
first that stops the series is made, in order, and nothing else is, but for the restore of SMT
after a run that stopped it. -/
theorem series_folds_runs (host : Host σ) (runner : Runner) (workload : Workload)
    (records : List Record) (measurements : List Measurement) (state : σ)
    (settled : runner.machine.smtDisabled = false) (calm : ¬ workload.Panics)
    (accepted : Runner.preflight runner.tools.optimizer records = .ok ()) :
    let runs := runner.runs host workload records state
    let executed := executedRuns runner.policy runs
    let series := (runner.runSeries workload records measurements).execute host state
    series.value.1 = ⟨seriesEnd runner.policy runs,
        measurements ++ executed.filterMap (·.value.1.measurement?)⟩ ∧
      (∃ restore, series.history = executed.flatMap (·.history) ++ restore ∧
        (seriesEnd runner.policy runs = .finished → restore = []) ∧
        ∀ event ∈ restore, ∃ reply,
          event = .called (.write runner.machine.smtControl "on\n") reply) ∧
      ∀ (index : Nat) (run : Execution σ (RunEnd × Runner)) (measurement : Measurement),
        runs[index]? = some run →
        run.value.1.measurement? = some measurement →
        records[index]? = some measurement.record := by
  intro runs executed series
  have start : Redeemed runner.site runner.policy (.ok ()) runner :=
    ⟨runner.worksAt_site, rfl, fun _ => settled⟩
  have loop := runEach_folds host calm records measurements runner state start
  have composed : series = _ := congrArg (·.execute host state) (runSeries_eq accepted)
  rw [composed, Procedure.execute_bind]
  refine and_assoc.mp
    ⟨?_, fun index run measurement now left => runs_getElem host workload now left⟩
  revert loop
  rcases (Runner.runEach workload records measurements runner).execute host state with
    ⟨⟨result, after⟩, left, history⟩
  rintro ⟨rfl, rfl, works, back⟩
  have control : after.machine.smtControl = runner.machine.smtControl := works.smtControl
  dsimp only
  rw [if_neg (seriesEnd_ne_panicked _ _)]
  obtain ⟨value, quiet, restores⟩ := settle_execute host
    ⟨seriesEnd runner.policy runs, measurements ++ executed.filterMap (·.value.1.measurement?)⟩
    after left back
  rw [control] at restores
  exact ⟨value, _, rfl, fun finished => quiet (back finished), restores⟩

end

/-- The optimizer cannot be started for the first run, and the series goes on to the second. -/
theorem series_folds_runs_after_failed_start :
    let runner := Sample.site.fresh .goOn .on
    let records := [Sample.record .damon, Sample.record .baseline]
    let runs := runner.runs Sample.schedule.host Sample.workload records (1, Sample.start)
    let series := (runner.runSeries Sample.workload records []).execute Sample.schedule.host
      (1, Sample.start)
    (executedRuns .goOn runs).length = 2 ∧ seriesEnd .goOn runs = .finished ∧
      series.value.1 = ⟨seriesEnd .goOn runs,
        [] ++ (executedRuns .goOn runs).filterMap (·.value.1.measurement?)⟩ ∧
      series.value.1.measurements.map (·.record) = [Sample.record .baseline] := by
  intro runner records runs series
  have folds := series_folds_runs Sample.schedule.host runner Sample.workload records []
    (1, Sample.start) rfl Sample.workload_calm rfl
  exact ⟨by decide +kernel, by decide +kernel, folds.1, by decide +kernel⟩

end CgroupBench
