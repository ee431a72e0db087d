import CgroupBench.Proofs.Configuration
import CgroupBench.Proofs.Conservation
import CgroupBench.Proofs.OwedRestore

/-!
# Records that are refused when their turn comes

The check before a series does not ask the workload for its commands. A file search gives none
for a record without a number of passes that its command can take, and such a record passes the
check. So the configuration ends a series in two ways: as a whole, before the first call, or at
the turn of such a record. The refused run itself makes no call, but the runs before it were made
and their measurements are kept.
-/
namespace CgroupBench

variable {σ : Type}

/-- The record names a number of passes that a file search can make. -/
def FileSearch.Counts (record : Record) : Prop :=
  ∃ passes : UInt64, record.get? Key.passes = some (.int passes) ∧ passes ≠ 0 ∧
    passes.toNat < UInt32.size

namespace FileSearch

variable (search : FileSearch) {record : Record}

theorem exists_command_iff :
    (∃ invocation, search.command record = .ok invocation) ↔ Counts record := by
  constructor
  · rintro ⟨invocation, answered⟩
    obtain ⟨passes, read, answered⟩ := bind_eq_ok.mp answered
    refine ⟨passes, Record.int_eq_ok.mp read, ?_, ?_⟩
    · rintro rfl
      cases answered
    · by_contra large
      rw [if_pos (Nat.le_of_not_lt large)] at answered
      cases answered
  · rintro ⟨passes, found, nonzero, small⟩
    rw [command, Record.int_eq_ok.mpr found]
    show ∃ _, (if UInt32.size ≤ passes.toNat then _ else _) = _
    rw [if_neg (Nat.not_le_of_lt small), if_neg nonzero]
    exact ⟨_, rfl⟩

theorem blames_command : Blames (search.command record) := by
  refine Record.blames_int.bind fun passes => ?_
  exact .ite (.refused _) (.ite (.refused _) (.ok _))

/-- A record without passes is refused, and it is the configuration that is blamed. -/
theorem refuses (uncounted : ¬ Counts record) :
    ∃ reason, search.toWorkload.command record = .error (.configuration reason) := by
  have answer : search.toWorkload.command record =
      ((search.command record : Except Fault Invocation) : Assignment) := rfl
  rw [answer]
  cases asked : search.command record with
  | ok invocation => exact absurd ((exists_command_iff search).mp ⟨invocation, asked⟩) uncounted
  | error fault =>
    have blamed := blames_command search fault asked
    cases fault with
    | configuration reason => exact ⟨reason, rfl⟩
    | _ => cases blamed

theorem assigns (counts : Counts record) :
    ∃ invocation, search.toWorkload.command record = .ok invocation := by
  obtain ⟨invocation, asked⟩ := (exists_command_iff search).mpr counts
  have answer : search.toWorkload.command record =
      ((search.command record : Except Fault Invocation) : Assignment) := rfl
  rw [answer, asked]
  exact ⟨invocation, rfl⟩

theorem content (counts : Counts record) : search.toWorkload.Content [record] where
  command other mem fault refused := by
    rw [List.mem_singleton.mp mem] at refused
    obtain ⟨invocation, asked⟩ := assigns search counts
    cases asked.symm.trans refused
  inspect _ _ _ seen := by cases seen

theorem calm : ¬ search.toWorkload.Panics := by
  rintro (⟨record, broke⟩ | ⟨output, elapsed, broke⟩)
  · have answer : search.toWorkload.command record =
        ((search.command record : Except Fault Invocation) : Assignment) := rfl
    rw [answer] at broke
    cases asked : search.command record <;> rw [asked] at broke <;> cases broke
  · cases broke

end FileSearch

namespace Runner

variable {workload : Workload} {record : Record} {runner : Runner} {target : Target}

/-- The runner once a run has begun. -/
def started (runner : Runner) : Runner :=
  { runner with stage := .preparing, stages := [.idle, .preparing] }

theorem attempt_refused {fault : Fault} (resolved : Target.ofRecord record = .ok target)
    (refused : workload.command record = .error fault) :
    attempt workload record runner = .note (.entered .idle) (.note (.entered .preparing)
      (.finish (.error fault, runner.started))) := by
  rw [attempt, prepare, resolved, refused]
  rfl

/-- The first thing that a run asks of the host, once it has a command, is to flush dirty pages. -/
theorem run_assigned {invocation : Invocation} (runner : Runner)
    (resolved : Target.ofRecord record = .ok target)
    (assigned : workload.command record = .ok invocation) :
    ∃ rest, run workload record runner = .note (.entered .idle) (.note (.entered .preparing)
      (.ask (.run ["sync"]) rest)) := by
  rw [run, attempt, prepare, resolved, assigned]
  exact ⟨_, rfl⟩

theorem tearDown_idle (idle : runner.cleanup.pending = []) :
    tearDown runner = .note .drained (.note (.occupied none)
      (.finish (.ok (), { runner with cleanup := {}, active := none }))) := by
  rw [tearDown, Cleanup.drain, idle]
  rfl

/-- A run that is refused a command makes no call, if nothing was pending before it. -/
theorem run_refused {fault : Fault} (resolved : Target.ofRecord record = .ok target)
    (refused : workload.command record = .error fault) (idle : runner.cleanup.pending = []) :
    run workload record runner = .note (.entered .idle) (.note (.entered .preparing)
      (.note (.entered .aborted) (.note .drained (.note (.occupied none)
        (.finish (.ofPhases (.error fault) (.ok ()),
          { runner.started.into .aborted with cleanup := {}, active := none })))))) := by
  have pending : (runner.started.into .aborted).cleanup.pending = [] := idle
  have unwound : wrapUp (.error fault, runner.started) = _ := rollBack_eq fault runner.started
  rw [tearDown_idle pending] at unwound
  rw [run_eq, attempt_refused resolved refused]
  show Procedure.note _ (Procedure.note _ (wrapUp (.error fault, runner.started))) = _
  rw [unwound]
  rfl

end Runner

/-- What ends a series is what the run is reported with. -/
theorem RunEnd.fault?_of_stop? {policy : FailurePolicy} {ending : RunEnd} {fault : Fault}
    (stop : ending.stop? policy = some fault) : ending.fault? = some fault := by
  cases ending with
  | fatal cause measurement => exact stop
  | failed cause =>
    cases policy with
    | abort => exact stop
    | goOn => cases stop
  | completed _ | panicked => cases stop

/-- What a run is like by whether its record counts its passes. -/
structure Turn (record : Record) (run : Execution σ (RunEnd × Runner)) : Prop where
  assigned : FileSearch.Counts record → Event.calls run.history ≠ [] ∧
    ∀ fault, run.value.1.fault? = some fault → fault.isConfiguration = false
  refused : ¬ FileSearch.Counts record → Event.calls run.history = [] ∧
    ∃ reason, run.value.1 = .fatal (.configuration reason) none

/-- Nothing is pending and SMT is not owed: what holds before each run of a series. -/
structure Rested (site : Site) (policy : FailurePolicy) (runner : Runner) : Prop
    extends Redeemed site policy (.ok ()) runner where
  idle : runner.cleanup.pending = []

section

variable {site : Site} {policy : FailurePolicy} {search : FileSearch} {record : Record}
  {records : List Record} {runner : Runner}

theorem run_turn (host : Host σ) (search : FileSearch) (state : σ)
    (accepted : Runner.accept site.tools.optimizer record = .ok ())
    (rested : Rested site policy runner) :
    Turn record ((runner.run search.toWorkload record).execute host state) := by
  obtain ⟨target, resolved, -⟩ := Runner.accept_eq_ok.mp accepted
  constructor
  · intro counts
    obtain ⟨invocation, assigned⟩ := FileSearch.assigns search counts
    obtain ⟨rest, same⟩ := Runner.run_assigned runner resolved assigned
    have blameless := run_content host (FileSearch.content search counts) (.head _)
      rested.toWorksAt accepted state
    refine ⟨?_, blameless.2⟩
    rw [same]
    exact List.cons_ne_nil _ _
  · intro uncounted
    obtain ⟨reason, refused⟩ := FileSearch.refuses search uncounted
    rw [Runner.run_refused resolved refused rested.idle]
    exact ⟨rfl, reason, rfl⟩

/-- After a run that lets the series go on the next one begins as this one did. -/
theorem run_rests (host : Host σ) (search : FileSearch) (record : Record) (state : σ)
    (rested : Rested site policy runner)
    (goesOn : ((runner.run search.toWorkload record).execute host state).stops policy = false) :
    Rested site policy ((runner.run search.toWorkload record).execute host state).value.2 := by
  have ended := run_redeems host search.toWorkload record state rested.toRedeemed
  have squared := run_squared host state runner search.toWorkload record
  revert goesOn ended squared
  rcases (runner.run search.toWorkload record).execute host state with
    ⟨⟨ending, after⟩, left, history⟩
  intro goesOn ended squared
  have idle : ending ≠ .panicked → after.cleanup.pending = [] := by
    intro calm
    rcases squared with ⟨broke, -⟩ | ⟨-, empty, -⟩
    · exact absurd broke calm
    · exact congrArg Cleanup.pending empty
  cases ending with
  | completed measurement => exact ⟨ended, idle nofun⟩
  | failed fault => exact ⟨ended, idle nofun⟩
  | fatal fault measurement => cases goesOn
  | panicked => exact absurd ended.2 search.calm

/-- Each run of a series whose turn comes is like its record. -/
theorem runs_turn (host : Host σ) (search : FileSearch) {state : σ}
    (accepted : ∀ record ∈ records, Runner.accept site.tools.optimizer record = .ok ())
    (rested : Rested site policy runner) {index : Nat} {run : Execution σ (RunEnd × Runner)}
    (reached : ∀ run ∈ (runner.runs host search.toWorkload records state).take index,
      run.stops policy = false)
    (now : (runner.runs host search.toWorkload records state)[index]? = some run) :
    ∃ record, records[index]? = some record ∧ Turn record run := by
  induction records generalizing runner state index with
  | nil => cases now
  | cons record rest ih =>
    obtain ⟨first, others⟩ := List.forall_mem_cons.mp accepted
    cases index with
    | zero =>
      obtain rfl := Option.some.inj now
      exact ⟨record, rfl, run_turn host search state first rested⟩
    | succ index =>
      rw [Runner.runs, List.take_succ_cons] at reached
      obtain ⟨goesOn, reached⟩ := List.forall_mem_cons.mp reached
      exact ih others (run_rests host search record state rested goesOn) reached now

end

theorem Runner.length_runs (host : Host σ) (workload : Workload) (records : List Record)
    (runner : Runner) (state : σ) :
    (runner.runs host workload records state).length = records.length := by
  induction records generalizing runner state with
  | nil => rfl
  | cons record rest ih => exact congrArg (· + 1) (ih _ _)

/-- A record that does not count its passes comes to its turn. -/
structure Runner.RefusesLate (host : Host σ) (search : FileSearch) (records : List Record)
    (runner : Runner) (state : σ) (index : Nat) : Prop where
  uncounted : ∃ record, records[index]? = some record ∧ ¬ FileSearch.Counts record
  reached : ∀ run ∈ (runner.runs host search.toWorkload records state).take index,
    run.stops runner.policy = false

section

variable {host : Host σ} {search : FileSearch} {records : List Record} {runner : Runner} {state : σ}
  {index : Nat}

/-- The runs up to one that ends the series, if none before it does. -/
theorem executedRuns_stop {policy : FailurePolicy}
    {before after : List (Execution σ (RunEnd × Runner))} {run : Execution σ (RunEnd × Runner)}
    (goOn : ∀ run ∈ before, run.stops policy = false) (stops : run.stops policy = true) :
    executedRuns policy (before ++ run :: after) = before ++ [run] := by
  induction before with
  | nil => exact executedRuns_cons_stop after stops
  | cons first rest ih =>
    obtain ⟨now, later⟩ := List.forall_mem_cons.mp goOn
    rw [List.cons_append, executedRuns_cons_goOn _ now, ih later]
    rfl

theorem seriesEnd_stop {policy : FailurePolicy}
    {before after : List (Execution σ (RunEnd × Runner))} {run : Execution σ (RunEnd × Runner)}
    {fault : Fault} (goOn : ∀ run ∈ before, run.stops policy = false)
    (stop : run.value.1.stop? policy = some fault) :
    seriesEnd policy (before ++ run :: after) = .stopped fault := by
  induction before with
  | nil => exact seriesEnd_cons_stop after stop
  | cons first rest ih =>
    obtain ⟨now, later⟩ := List.forall_mem_cons.mp goOn
    have goesOn : first.value.1.stop? policy = none := by simpa [Execution.stops] using now
    rw [List.cons_append, seriesEnd_cons_goOn _ goesOn, ih later]

/-- The run that is refused ends the series, and makes no call. -/
theorem Runner.RefusesLate.run
    (accepted : ∀ record ∈ records, accept runner.tools.optimizer record = .ok ())
    (rested : Rested runner.site runner.policy runner)
    (late : runner.RefusesLate host search records state index) :
    let runs := runner.runs host search.toWorkload records state
    ∃ run reason, runs = runs.take index ++ run :: runs.drop (index + 1) ∧
      Event.calls run.history = [] ∧ run.value.1 = .fatal (.configuration reason) none := by
  intro runs
  obtain ⟨record, listed, uncounted⟩ := late.uncounted
  obtain ⟨within, -⟩ := List.getElem?_eq_some_iff.mp listed
  rw [← runner.length_runs host search.toWorkload records state] at within
  obtain ⟨other, same, turn⟩ := runs_turn host search accepted rested late.reached
    (List.getElem?_eq_getElem within)
  obtain rfl : record = other := Option.some.inj (listed.symm.trans same)
  obtain ⟨quiet, reason, fatal⟩ := turn.refused uncounted
  refine ⟨_, reason, ?_, quiet, fatal⟩
  rw [← List.drop_eq_getElem_cons within, List.take_append_drop]

end

/-- A series that is refused as a whole is over before its first event. -/
theorem runSeries_refused_up_front (host : Host σ) (workload : Workload) {records : List Record}
    (measurements : List Measurement) {runner : Runner} (state : σ)
    (refused : Runner.preflight runner.tools.optimizer records ≠ .ok ()) :
    ∃ reason, (runner.runSeries workload records measurements).execute host state =
      ⟨(⟨.stopped (.configuration reason), measurements⟩, runner), state, []⟩ := by
  cases result : Runner.preflight runner.tools.optimizer records with
  | ok _ => exact absurd result refused
  | error fault =>
    have blamed := Runner.blames_preflight fault result
    cases fault with
    | configuration reason =>
      exact ⟨reason, congrArg (·.execute host state) (runSeries_refused result)⟩
    | _ => cases blamed

/-- The last restore does nothing after runs that leave nothing owed. -/
theorem runSeries_settled {host : Host σ} {workload : Workload} {records : List Record}
    {measurements : List Measurement} {runner : Runner} {state : σ}
    (accepted : Runner.preflight runner.tools.optimizer records = .ok ())
    (settled : ((runner.runEach workload records measurements).execute host
      state).value.2.machine.smtDisabled = false) :
    (runner.runSeries workload records measurements).execute host state =
      (runner.runEach workload records measurements).execute host state := by
  rw [runSeries_eq accepted, Procedure.execute_bind]
  revert settled
  rcases (runner.runEach workload records measurements).execute host state with
    ⟨⟨result, after⟩, left, history⟩
  intro settled
  dsimp only at settled ⊢
  rw [settle_settled settled]
  have same : (if result.ending = .panicked then return (result, after)
      else .finish (result, after) : Procedure _) = .finish (result, after) := ite_self _
  rw [same]
  exact congrArg (Execution.mk (result, after) left) (List.append_nil history)

section

variable {host : Host σ} {search : FileSearch} {records : List Record} {runner : Runner} {state : σ}
  {index : Nat} (measurements : List Measurement)
  (rested : Rested runner.site runner.policy runner)
  (accepted : Runner.preflight runner.tools.optimizer records = .ok ())
include rested accepted

/-- A record that is refused at its turn ends the series, and adds nothing to it. -/
theorem Runner.RefusesLate.ends (late : runner.RefusesLate host search records state index) :
    let before := (runner.runs host search.toWorkload records state).take index
    let series := (runner.runSeries search.toWorkload records measurements).execute host state
    (∃ reason, series.value.1 = ⟨.stopped (.configuration reason),
        measurements ++ before.filterMap (·.value.1.measurement?)⟩) ∧
      Event.calls series.history = Event.calls (before.flatMap (·.history)) := by
  intro before series
  obtain ⟨-, -, each⟩ := preflight_eq_ok.mp accepted
  obtain ⟨run, reason, cut, quiet, fatal⟩ := late.run each rested
  have stop : run.value.1.stop? runner.policy = some (.configuration reason) := by
    rw [fatal]
    rfl
  have stops : run.stops runner.policy = true := by
    rw [Execution.stops, stop]
    rfl
  have folds := runEach_folds host search.calm records measurements runner state rested.toRedeemed
  have result := folds.result
  have history := folds.history
  rw [cut, executedRuns_stop late.reached stops] at result history
  rw [seriesEnd_stop late.reached stop] at result
  have back := runEach_settled host search.toWorkload records measurements state
    (rested.settled rfl)
  dsimp only at back
  rw [result] at back
  -- What stopped the runs is no failed restore, so none is owed.
  have unrelated : ∀ fault, SeriesEnd.stopped (.configuration reason) = .stopped fault →
      fault.isSmtRestore = false :=
    fun _ same => SeriesEnd.stopped.inj same ▸ rfl
  have same : series = _ := runSeries_settled accepted (back SeriesEnd.noConfusion unrelated)
  have nothing : [run].filterMap (·.value.1.measurement?) = [] := by
    rw [List.filterMap_cons, fatal]
    rfl
  rw [same]
  constructor
  · refine ⟨reason, ?_⟩
    rw [result, List.filterMap_append, nothing, List.append_nil]
  · rw [history, List.flatMap_append, Event.calls_append, List.flatMap_singleton, quiet,
      List.append_nil]

/-- The refused record is the first, or a call was made before it. -/
theorem Runner.RefusesLate.first (late : runner.RefusesLate host search records state index) :
    Event.calls (((runner.runs host search.toWorkload records state).take index).flatMap
      (·.history)) = [] ↔ index = 0 := by
  constructor
  · intro quiet
    cases index with
    | zero => rfl
    | succ index =>
      obtain ⟨-, -, each⟩ := preflight_eq_ok.mp accepted
      cases records with
      | nil =>
        obtain ⟨record, listed, -⟩ := late.uncounted
        cases listed
      | cons record rest =>
        have turn := run_turn host search state (each record (.head _)) rested
        have goesOn := late.reached _ (.head _)
        rw [runs, List.take_succ_cons, List.flatMap_cons, Event.calls_append] at quiet
        -- A first record without passes would have ended the series.
        by_cases counts : FileSearch.Counts record
        · exact absurd (List.append_eq_nil_iff.mp quiet).1 (turn.assigned counts).1
        · obtain ⟨-, reason, fatal⟩ := turn.refused counts
          rw [Execution.stops, fatal] at goesOn
          cases goesOn
  · rintro rfl
    rfl

/-- Where the configuration ends a series that was accepted, a record has been refused. -/
theorem Runner.RefusesLate.of_stopped {reason : String}
    (stopped : ((runner.runSeries search.toWorkload records measurements).execute host
      state).value.1.ending = .stopped (.configuration reason)) :
    ∃ index, runner.RefusesLate host search records state index := by
  obtain ⟨-, -, each⟩ := preflight_eq_ok.mp accepted
  have folds := runEach_folds host search.calm records measurements runner state rested.toRedeemed
  have loop : seriesEnd runner.policy (runner.runs host search.toWorkload records state) =
      .stopped (.configuration reason) := by
    have result := folds.result
    rw [runSeries_eq accepted, Procedure.execute_bind] at stopped
    revert stopped result
    rcases (runner.runEach search.toWorkload records measurements).execute host state with
      ⟨⟨result, after⟩, left, history⟩
    rintro stopped rfl
    dsimp only at stopped
    rw [if_neg (seriesEnd_ne_panicked _ _)] at stopped
    rcases settle_stopped host stopped with same | restore
    · exact same
    · cases restore
  rw [seriesEnd] at loop
  cases found : (runner.runs host search.toWorkload records state).findSome?
      (·.value.1.stop? runner.policy) with
  | none =>
    rw [found] at loop
    cases loop
  | some fault =>
    rw [found] at loop
    obtain rfl := SeriesEnd.stopped.inj loop
    obtain ⟨before, run, after, cut, stop, goOn⟩ := List.findSome?_eq_some_iff.mp found
    have taken :
        (runner.runs host search.toWorkload records state).take before.length = before := by
      rw [cut, List.take_left]
    have reached : ∀ run ∈ (runner.runs host search.toWorkload records state).take before.length,
        run.stops runner.policy = false := by
      rw [taken]
      intro run mem
      rw [Execution.stops, goOn run mem]
      rfl
    have now : (runner.runs host search.toWorkload records state)[before.length]? = some run := by
      rw [cut, List.getElem?_append_right (Nat.le_refl _), Nat.sub_self]
      rfl
    obtain ⟨record, listed, turn⟩ := runs_turn host search each rested reached now
    refine ⟨before.length, ⟨record, listed, fun counts => ?_⟩, reached⟩
    have reported : run.value.1.fault? = some (.configuration reason) := RunEnd.fault?_of_stop? stop
    cases (turn.assigned counts).2 _ reported

end

/-- The configuration ends a series of a file search if and only if the check before it refuses
its records, or one that does not count its passes comes to its turn. In the first case nothing
was done. In the second the calls are those of the runs before that record, and what they
measured is kept; there are none only if the record is the first. -/
theorem configuration_ends_series (host : Host σ) (search : FileSearch) (records : List Record)
    (runner : Runner) (measurements : List Measurement) (state : σ)
    (settled : runner.machine.smtDisabled = false) (idle : runner.cleanup.pending = []) :
    let accepted := Runner.preflight runner.tools.optimizer records = .ok ()
    let runs := runner.runs host search.toWorkload records state
    let series := (runner.runSeries search.toWorkload records measurements).execute host state
    ((∃ reason, series.value.1.ending = .stopped (.configuration reason)) ↔
        ¬ accepted ∨ ∃ index, runner.RefusesLate host search records state index) ∧
      (¬ accepted → series.history = [] ∧ series.value.1.measurements = measurements ∧
        series.value.2 = runner) ∧
      (accepted → ∀ index, runner.RefusesLate host search records state index →
        series.value.1.measurements =
            measurements ++ (runs.take index).filterMap (·.value.1.measurement?) ∧
          Event.calls series.history = Event.calls ((runs.take index).flatMap (·.history)) ∧
          (Event.calls series.history = [] ↔ index = 0)) := by
  intro accepted runs series
  have rested : Rested runner.site runner.policy runner :=
    ⟨⟨runner.worksAt_site, rfl, fun _ => settled⟩, idle⟩
  have upFront : ¬ accepted → ∃ reason,
      series = ⟨(⟨.stopped (.configuration reason), measurements⟩, runner), state, []⟩ :=
    runSeries_refused_up_front host search.toWorkload measurements state
  have late : accepted → ∀ index, runner.RefusesLate host search records state index → _ :=
    fun known index refuses => refuses.ends measurements rested known
  refine ⟨⟨?_, ?_⟩, ?_, ?_⟩
  · rintro ⟨reason, stopped⟩
    by_cases known : accepted
    · exact .inr (Runner.RefusesLate.of_stopped measurements rested known stopped)
    · exact .inl known
  · intro why
    by_cases known : accepted
    · obtain ⟨index, refuses⟩ := why.resolve_left (not_not_intro known)
      obtain ⟨⟨reason, result⟩, -⟩ := late known index refuses
      exact ⟨reason, congrArg SeriesResult.ending result⟩
    · obtain ⟨reason, same⟩ := upFront known
      exact ⟨reason, by rw [same]⟩
  · intro refused
    obtain ⟨reason, same⟩ := upFront refused
    rw [same]
    exact ⟨rfl, rfl, rfl⟩
  · intro known index refuses
    obtain ⟨⟨reason, result⟩, calls⟩ := late known index refuses
    refine ⟨congrArg SeriesResult.measurements result, calls, ?_⟩
    rw [calls]
    exact refuses.first rested known

namespace Sample

def search : FileSearch := { dataDir := "/data" }

/-- Two records of one search, of which the second makes no pass. -/
def searched : List Record :=
  [20, 0].map fun passes => ⟨[(Key.passes, .int passes), (Key.cgroupSize, .int 4096),
    (Key.cgroupName, .text Variant.baseline.label)]⟩

/-- Nothing is forced to fail any more. -/
def searching : Execution (Nat × Footprint) (SeriesResult × Runner) :=
  ((site.fresh .abort .on).runSeries search.toWorkload searched []).execute schedule.host (8, start)

theorem searched_accepted :
    Runner.preflight (site.fresh .abort .on).tools.optimizer searched = .ok () :=
  rfl

theorem searched_late :
    (site.fresh .abort .on).RefusesLate schedule.host search searched (8, start) 1 where
  uncounted := by
    refine ⟨_, rfl, ?_⟩
    rintro ⟨passes, found, nonzero, -⟩
    exact nonzero (Value.int.inj (Option.some.inj found)).symm
  reached := by decide +kernel

end Sample

theorem configuration_ends_series_on_searched :
    (Sample.site.fresh .abort .on).machine.smtDisabled = false ∧
      (Sample.site.fresh .abort .on).cleanup.pending = [] ∧
      (∃ reason, Sample.searching.value.1.ending = .stopped (.configuration reason)) ∧
      Event.calls Sample.searching.history ≠ [] := by
  have ends := configuration_ends_series Sample.schedule.host Sample.search Sample.searched
    (Sample.site.fresh .abort .on) [] (8, Sample.start) rfl rfl
  obtain ⟨stops, -, late⟩ := ends
  obtain ⟨-, -, first⟩ := late Sample.searched_accepted 1 Sample.searched_late
  refine ⟨rfl, rfl, stops.mpr (.inr ⟨1, Sample.searched_late⟩), fun none => ?_⟩
  exact absurd (first.mp none) Nat.one_ne_zero

/-- The configuration ends a series whose first record was run and measured. -/
theorem refused_after_first_run :
    Runner.preflight Sample.site.tools.optimizer Sample.searched = .ok () ∧
      Sample.searching.value.1.ending = .stopped (.configuration "passes must be at least 1") ∧
      Sample.searching.value.1.measurements.map (·.record) = Sample.searched.take 1 ∧
      (Event.calls Sample.searching.history).length ≠ 0 := by
  decide +kernel

end CgroupBench
