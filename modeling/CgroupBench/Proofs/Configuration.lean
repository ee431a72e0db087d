import CgroupBench.Proofs.Expansion
import CgroupBench.Proofs.Preflight
import CgroupBench.Proofs.RunOutcome
import CgroupBench.Proofs.SeriesFold

/-!
# Where the configuration can be at fault

Before its first call a run may find its record at fault, or be refused a command for it; after
that only the result hook and an optimizer without a description could still blame the
configuration. So what is accepted before a series, and asked of a workload that blames nothing,
is never blamed later, whatever the host answers. The records of a file search are such: what
its matrix can be built from and the lifecycle cannot run is refused before the first call.
-/
namespace CgroupBench

variable {σ : Type}

theorem Fault.isConfiguration_ofSetup (what : String) (cause : CallError) :
    (ofSetup what cause).isConfiguration = false := by
  rw [ofSetup]
  split <;> rfl

theorem Runner.isConfiguration_launchFault (benchmark : String) (cause : CallError) :
    (launchFault benchmark cause).isConfiguration = false := by
  rw [launchFault]
  split <;> rfl

theorem Milestone.Calls.isConfiguration {site : Site} {target : Target} {benchmark : String}
    {invocation : Invocation} {here there : Milestone} {call : Call} {excused : CallError → Bool}
    {wrap : CallError → Fault}
    (calls : Milestone.Calls site target benchmark invocation here call excused wrap there)
    (cause : CallError) : (wrap cause).isConfiguration = false := by
  cases calls with
  | launch => exact Runner.isConfiguration_launchFault benchmark cause
  | _ => exact Fault.isConfiguration_ofSetup _ cause

/-- No reversal that failed blames the configuration. -/
theorem Event.isConfiguration_of_mem_failures {history : List Event} {fault : Fault}
    (mem : fault ∈ failures history) : fault.isConfiguration = false := by
  obtain ⟨reversal, cause, rfl⟩ := mem_failures mem
  cases reversal <;> rfl

/-- A fault that blames the configuration was given by the workload, for the record or for what
its command left. -/
def Workload.Answerable (workload : Workload) (record : Record) (fault : Fault) : Prop :=
  fault.isConfiguration = true → workload.command record = .error fault ∨
    ∃ output elapsed, workload.inspect output elapsed = .faulty fault

theorem Workload.answerable_of_blameless {workload : Workload} {record : Record} {fault : Fault}
    (blameless : fault.isConfiguration = false) : workload.Answerable record fault :=
  fun blames => absurd (blameless.symm.trans blames) Bool.false_ne_true

/-- The workload blames the configuration for none of these records. -/
structure Workload.Content (workload : Workload) (records : List Record) : Prop where
  command : ∀ record ∈ records, ∀ fault, workload.command record = .error fault →
    fault.isConfiguration = false
  inspect : ∀ output elapsed fault, workload.inspect output elapsed = .faulty fault →
    fault.isConfiguration = false

theorem Workload.Content.blameless {workload : Workload} {records : List Record}
    (content : workload.Content records) {record : Record} (mem : record ∈ records) {fault : Fault}
    (answerable : workload.Answerable record fault) : fault.isConfiguration = false := by
  by_contra blames
  rcases answerable ((Bool.not_eq_false _).mp blames) with given | ⟨output, elapsed, given⟩
  · exact blames (content.command record mem fault given)
  · exact blames (content.inspect output elapsed fault given)

section

variable {site : Site} {workload : Workload} {record : Record} {records : List Record}

theorem answerable_course (host : Host σ) {target : Target}
    (described : target.variant.isOptimized = true → site.tools.optimizer.descriptor ≠ none)
    (invocation : Invocation) :
    Course site (Watch.plain host) workload target invocation
      (fun _ runner _ _ => runner.WorksAt site)
      (fun fault runner _ _ => runner.WorksAt site ∧ workload.Answerable record fault) where
  worksAt works := works
  follows same works := works.agrees same.toAgrees
  passing _ works := ⟨trivial, works⟩
  skip _ works := works
  registered _ _ works := ⟨trivial, { works with }⟩
  call calls works := by
    refine .ask fun reply _ _ => ⟨trivial, ?_⟩
    rcases reply with cause | _
    · exact ⟨fun _ => works, fun _ =>
        ⟨works, Workload.answerable_of_blameless (calls.isConfiguration cause)⟩⟩
    · exact works
  retry _ works := by
    refine .ask fun reply _ _ => ⟨trivial, ?_⟩
    rcases reply with cause | _
    · exact ⟨fun _ => works, works,
        Workload.answerable_of_blameless (Fault.isConfiguration_ofSetup _ cause)⟩
    · exact works
  undescribed optimized none _ := absurd none (described optimized)
  occupied _ works := ⟨trivial, { works with }⟩
  abandoned h := ⟨trivial, { h.1 with }, h.2⟩
  smtOff _ works := by
    refine .ask fun reply _ _ => ⟨trivial, ?_⟩
    rcases reply with cause | _
    · exact ⟨fun _ => works, fun _ =>
        ⟨works, Workload.answerable_of_blameless (Fault.isConfiguration_ofSetup _ cause)⟩⟩
    · exact { works with }
  faulty seen works := ⟨works, fun _ => .inr ⟨_, _, seen⟩⟩

theorem answerable_conduct (host : Host σ)
    (accepted : Runner.accept site.tools.optimizer record = .ok ()) :
    Conduct site (Watch.plain host) workload record (fun runner _ _ => runner.WorksAt site)
      (fun runner _ _ => runner.WorksAt site) (fun _ _ runner _ _ => runner.WorksAt site)
      (fun fault runner _ _ => runner.WorksAt site ∧ workload.Answerable record fault) where
  begun _ _ _ works := ⟨trivial, trivial, { works with }⟩
  refused {fault} _ _ _ why works := by
    obtain ⟨target, resolved, -⟩ := Runner.accept_eq_ok.mp accepted
    rcases why with unresolved | refused
    · rw [resolved] at unresolved
      cases unresolved
    · exact ⟨works, fun _ => .inl refused⟩
  start works := works
  course {target} _ resolved _ := by
    obtain ⟨other, same, described⟩ := Runner.accept_eq_ok.mp accepted
    obtain rfl : target = other := Except.ok.inj (resolved.symm.trans same)
    exact answerable_course host described _

/-- An unwinding leaves the tools and the files of the machine as they are. -/
theorem worksAt_unwinding (host : Host σ) (runner : Runner) :
    Unwinding site (Watch.plain host) (fun _ _ machine _ _ =>
      ({ runner with machine } : Runner).WorksAt site) where
  control works := works.smtControl
  call reversal _ works := by
    refine ⟨trivial, .ask fun reply _ _ => ⟨trivial, ?_⟩⟩
    exact .either (works.settle reversal) fun _ => works
  settled _ works := ⟨trivial, works⟩

theorem worksAt_closes (host : Host σ) :
    Closes (Watch.plain host) (fun _ runner _ _ => runner.WorksAt site)
      (fun runner _ _ => runner.WorksAt site) where
  enter _ _ works := ⟨trivial, { works with }⟩
  tearDown {runner _ _} works := by
    refine Watch.Ensures.mono ((worksAt_unwinding host runner).tearDown
      (fun _ runner _ _ => runner.WorksAt site) works.tools ⟨trivial, works⟩ ?_) ?_
    · exact fun _ _ _ _ works => ⟨trivial, { works with }⟩
    · exact fun _ _ _ ⟨_, _, works⟩ => works
  leave _ _ works := ⟨trivial, { works with }⟩

/-- A run of a record that was accepted works on where it did, and blames the configuration only
where its workload does. -/
theorem run_answerable (host : Host σ) (workload : Workload) {runner : Runner}
    (works : runner.WorksAt site)
    (accepted : Runner.accept site.tools.optimizer record = .ok ()) (state : σ) :
    let run := (Runner.run workload record runner).execute host state
    run.value.2.WorksAt site ∧
      ∀ fault, run.value.1.fault? = some fault → workload.Answerable record fault := by
  intro run
  have conduct : Conduct site _ workload record _ _ _ _ := answerable_conduct host accepted
  constructor
  · have ended : (Watch.plain host).Ensures (Runner.run workload record runner) () state
        fun out _ _ => out.2.WorksAt site := by
      refine (conduct.run (worksAt_closes host) (fun _ _ _ _ works => works)
        (fun _ _ _ _ broken => broken.1) works).mono ?_
      rintro ⟨_ | _ | _ | _, after⟩ _ _ ended
      · exact ended
      · exact ended
      · exact ended.elim id id
      · exact ended.1.elim id fun ⟨_, works⟩ => works
    exact ended.finished
  · intro fault reported
    rw [run_value] at reported
    rcases RunEnd.fault?_ofPhases reported with attempted | unwound
    · have delivered : Watch.Outcome _ _
          ((Runner.attempt workload record runner).execute host state).value () _ :=
        (conduct.attempt runner () state works).finished
      revert attempted delivered
      rcases ((Runner.attempt workload record runner).execute host state).value with ⟨_, after⟩
      rintro rfl delivered
      exact delivered.2
    · exact Workload.answerable_of_blameless
        (Event.isConfiguration_of_mem_failures (verdict_error unwound))

/-- A run of a record that was accepted is not ended by the configuration, and works on where it
did. -/
theorem run_content (host : Host σ) (content : workload.Content records) (mem : record ∈ records)
    {runner : Runner} (works : runner.WorksAt site)
    (accepted : Runner.accept site.tools.optimizer record = .ok ()) (state : σ) :
    let run := (Runner.run workload record runner).execute host state
    run.value.2.WorksAt site ∧
      ∀ fault, run.value.1.fault? = some fault → fault.isConfiguration = false := by
  intro run
  obtain ⟨works, answerable⟩ := run_answerable host workload works accepted state
  exact ⟨works, fun fault reported => content.blameless mem (answerable fault reported)⟩

theorem runs_content (host : Host σ) {records all : List Record} (content : workload.Content all)
    (listed : ∀ record ∈ records, record ∈ all)
    (accepted : ∀ record ∈ records, Runner.accept site.tools.optimizer record = .ok ())
    {runner : Runner} (works : runner.WorksAt site) (state : σ) :
    ∀ run ∈ runner.runs host workload records state, ∀ fault,
      run.value.1.fault? = some fault → fault.isConfiguration = false := by
  induction records generalizing runner state with
  | nil => exact List.forall_mem_nil _
  | cons record rest ih =>
    obtain ⟨mem, others⟩ := List.forall_mem_cons.mp listed
    obtain ⟨now, later⟩ := List.forall_mem_cons.mp accepted
    obtain ⟨works, blameless⟩ := run_content host content mem works now state
    exact List.forall_mem_cons.mpr ⟨blameless, ih others later works _⟩

end

/-- What stops the runs of a series is what one of them is reported with. -/
theorem runEach_stopped (host : Host σ) (workload : Workload) {records : List Record}
    {measurements : List Measurement} {runner : Runner} {state : σ} {fault : Fault}
    (stopped : ((Runner.runEach workload records measurements runner).execute host
      state).value.1.ending = .stopped fault) :
    ∃ run ∈ runner.runs host workload records state, run.value.1.fault? = some fault := by
  induction records generalizing measurements runner state with
  | nil => cases stopped
  | cons record rest ih =>
    rw [Runner.runEach, Procedure.execute_bind] at stopped
    rw [Runner.runs]
    revert stopped
    rcases (Runner.run workload record runner).execute host state with
      ⟨⟨ending, after⟩, left, history⟩
    intro stopped
    cases ending with
    | completed measurement =>
      obtain ⟨run, mem, reported⟩ := ih stopped
      exact ⟨run, .tail _ mem, reported⟩
    | failed cause =>
      dsimp only at stopped
      cases policy : after.policy with
      | abort =>
        rw [policy] at stopped
        obtain rfl : cause = fault := SeriesEnd.stopped.inj stopped
        exact ⟨_, .head _, rfl⟩
      | goOn =>
        rw [policy] at stopped
        obtain ⟨run, mem, reported⟩ := ih stopped
        exact ⟨run, .tail _ mem, reported⟩
    | fatal cause measurement =>
      obtain rfl : cause = fault := SeriesEnd.stopped.inj stopped
      exact ⟨_, .head _, rfl⟩
    | panicked => cases stopped

/-- The last restore adds no fault but its own. -/
theorem settle_stopped (host : Host σ) {result : SeriesResult} {runner : Runner} {state : σ}
    {fault : Fault}
    (stopped : ((Runner.settle result runner).execute host state).value.1.ending =
      .stopped fault) :
    result.ending = .stopped fault ∨ fault.isSmtRestore = true := by
  cases owing : runner.machine.smtDisabled with
  | false =>
    rw [settle_settled owing] at stopped
    exact .inl stopped
  | true =>
    rw [settle_owing owing, Procedure.execute] at stopped
    revert stopped
    rcases host.answer state (.write runner.machine.smtControl "on\n") with ⟨cause | _, left⟩
    · intro stopped
      have reported : result.ending.report (.smtRestore cause) = .stopped fault := stopped
      cases ending : result.ending with
      | finished =>
        rw [ending] at reported
        exact .inr (SeriesEnd.stopped.inj reported ▸ rfl)
      | stopped other =>
        rw [ending] at reported
        exact .inl reported
      | panicked =>
        rw [ending] at reported
        cases reported
    · exact .inl

theorem runSeries_stopped (host : Host σ) {workload : Workload} {records : List Record}
    {measurements : List Measurement} {runner : Runner} {state : σ} {fault : Fault}
    (accepted : Runner.preflight runner.tools.optimizer records = .ok ())
    (stopped : ((runner.runSeries workload records measurements).execute host
      state).value.1.ending = .stopped fault) :
    (∃ run ∈ runner.runs host workload records state, run.value.1.fault? = some fault) ∨
      fault.isSmtRestore = true := by
  rw [runSeries_eq accepted, Procedure.execute_bind] at stopped
  have loop : ((Runner.runEach workload records measurements runner).execute host
      state).value.1.ending = .stopped fault →
      ∃ run ∈ runner.runs host workload records state, run.value.1.fault? = some fault :=
    runEach_stopped host workload
  revert stopped loop
  rcases (Runner.runEach workload records measurements runner).execute host state with
    ⟨⟨result, after⟩, left, history⟩
  intro stopped loop
  dsimp only at stopped loop
  by_cases broke : result.ending = .panicked
  · rw [if_pos broke] at stopped
    cases broke.symm.trans stopped
  · rw [if_neg broke] at stopped
    exact (settle_stopped host stopped).imp loop id

namespace FileSearch

variable {search : FileSearch} {request : MatrixRequest} {records : List Record}

theorem Plans.content (h : search.Plans request records) : search.toWorkload.Content records where
  command record mem fault refused := by
    obtain ⟨passes, invocation, -, asked, -⟩ := h.command mem
    have answered : search.toWorkload.command record = .ok invocation := by
      show ((search.command record : Except Fault Invocation) : Assignment) = _
      rw [asked]
    rw [answered] at refused
    cases refused
  inspect _ _ _ seen := by cases seen

/-- Of a matrix that could be built, only a limit of zero and a missing description are refused. -/
theorem Plans.preflight (h : search.Plans request records) (optimizer : Optimizer) :
    Runner.preflight optimizer records = .ok () ↔
      ¬ (0 ∈ search.cgroupSizes ∨ request.defaultOnly = false ∧ optimizer.descriptor = none) := by
  rw [Runner.preflight_eq_ok]
  constructor
  · rintro ⟨-, -, accepted⟩ (zero | ⟨both, none⟩)
    · obtain ⟨record, mem, sized⟩ := h.exists_cgroupSize zero
      obtain ⟨target, resolved, -⟩ := Runner.accept_eq_ok.mp (accepted record mem)
      obtain ⟨-, found, nonzero⟩ := Target.ofRecord_eq_ok.mp resolved
      rw [sized] at found
      exact nonzero (Value.int.inj (Option.some.inj found)).symm
    · have listed : Variant.damon ∈ variants request.defaultOnly := by
        rw [both]
        decide
      obtain ⟨record, mem, named⟩ := h.exists_variant listed
      obtain ⟨target, resolved, described⟩ := Runner.accept_eq_ok.mp (accepted record mem)
      obtain ⟨found, -, -⟩ := Target.ofRecord_eq_ok.mp resolved
      rw [named] at found
      have same := Variant.label_injective (Value.text.inj (Option.some.inj found))
      exact described (same ▸ rfl) none
  · intro sound
    refine ⟨h.nonempty, fun record mem other listed => (h.names mem).trans (h.names listed).symm,
      fun record mem => ?_⟩
    obtain ⟨variant, chosen, named⟩ := h.variant_of_mem mem
    obtain ⟨size, given, sized⟩ := h.cgroupSize_of_mem mem
    have nonzero : size ≠ 0 := fun zero => sound (.inl (zero ▸ given))
    have resolved : Target.ofRecord record = .ok ⟨variant, size⟩ :=
      Target.ofRecord_eq_ok.mpr ⟨named, sized, nonzero⟩
    refine Runner.accept_eq_ok.mpr ⟨_, resolved, fun optimized none => sound (.inr ⟨?_, none⟩)⟩
    -- Only the unrestricted matrix holds the optimized variant.
    by_contra restricted
    rw [variants, if_pos (by simpa using restricted)] at chosen
    rw [List.mem_singleton.mp chosen] at optimized
    cases optimized

end FileSearch

/-- The matrix of a file search is refused as a whole, before the first call, or none of its runs
is ended by the configuration. -/
theorem matrix_refused_up_front (host : Host σ) {search : FileSearch} {request : MatrixRequest}
    {records : List Record} (built : search.records request = .ok records) (runner : Runner)
    (measurements : List Measurement) (state : σ) :
    let refused := 0 ∈ search.cgroupSizes ∨
      request.defaultOnly = false ∧ runner.tools.optimizer.descriptor = none
    let series := (runner.runSeries search.toWorkload records measurements).execute host state
    (∀ record ∈ records, ∃ (passes : UInt64) (invocation : Invocation),
      record.get? Key.passes = some (.int passes) ∧ search.command record = .ok invocation ∧
        invocation.repeats.toNat = passes.toNat ∧ 1 ≤ passes.toNat) ∧
      ((∃ reason, series.value.1.ending = .stopped (.configuration reason)) ↔ refused) ∧
      (refused → series.history = [] ∧ series.value.1.measurements = measurements ∧
        series.value.2 = runner) ∧
      (¬ refused → ∀ run ∈ runner.runs host search.toWorkload records state, ∀ reason,
        run.value.1.fault? ≠ some (.configuration reason)) := by
  intro refused series
  have plans := FileSearch.plans built
  have checked := plans.preflight runner.tools.optimizer
  have blameless : ¬ refused → ∀ run ∈ runner.runs host search.toWorkload records state, ∀ fault,
      run.value.1.fault? = some fault → fault.isConfiguration = false := by
    intro sound
    obtain ⟨-, -, accepted⟩ := Runner.preflight_eq_ok.mp (checked.mpr sound)
    exact runs_content host plans.content (fun _ mem => mem) accepted runner.worksAt_site state
  have untouched : refused → ∃ fault, fault.isConfiguration = true ∧
      series = ⟨(⟨.stopped fault, measurements⟩, runner), state, []⟩ := by
    intro unsound
    cases result : Runner.preflight runner.tools.optimizer records with
    | ok _ => exact absurd unsound (checked.mp result)
    | error fault =>
      refine ⟨fault, Runner.blames_preflight fault result, ?_⟩
      exact congrArg (·.execute host state) (runSeries_refused result)
  refine ⟨fun record mem => plans.command mem, ⟨?_, ?_⟩, ?_, ?_⟩
  · rintro ⟨reason, stopped⟩
    by_contra sound
    rcases runSeries_stopped host (checked.mpr sound) stopped with ⟨run, mem, reported⟩ | restore
    · cases blameless sound run mem _ reported
    · cases restore
  · intro unsound
    obtain ⟨fault, blamed, same⟩ := untouched unsound
    cases fault with
    | configuration reason => exact ⟨reason, by rw [same]⟩
    | _ => cases blamed
  · intro unsound
    obtain ⟨fault, -, same⟩ := untouched unsound
    rw [same]
    exact ⟨rfl, rfl, rfl⟩
  · intro sound run mem reason reported
    cases blameless sound run mem _ reported

/-- There is no description for the second of the two records. -/
theorem matrix_refused_up_front_undescribed :
    let search : FileSearch := { dataDir := "/data" }
    let records := Variant.all.map fun variant => Record.mk
      [(Key.passes, .int 20), (Key.cgroupSize, .int 1073741824),
        (Key.cgroupName, .text variant.label), (Key.benchmark, .text FileSearch.name),
        (Key.iteration, .int 1)]
    let request : MatrixRequest := { iterations := 1 }
    let runner := ({} : Site).fresh .abort .on
    let series := (runner.runSeries search.toWorkload records []).execute Sample.schedule.host
      (0, Sample.start)
    search.records request = .ok records ∧
      (∃ reason, series.value.1.ending = .stopped (.configuration reason)) ∧
      series.history = [] ∧ series.value.1.measurements = [] := by
  intro search records request runner series
  have built : search.records request = .ok records := rfl
  obtain ⟨-, rejected, untouched, -⟩ := matrix_refused_up_front Sample.schedule.host built runner []
    (0, Sample.start)
  have undescribed : (0 : UInt64) ∈ search.cgroupSizes ∨
      request.defaultOnly = false ∧ runner.tools.optimizer.descriptor = none :=
    .inr ⟨rfl, rfl⟩
  obtain ⟨quiet, same, -⟩ := untouched undescribed
  exact ⟨built, rejected.mpr undescribed, quiet, same⟩

end CgroupBench
