import CgroupBench.Proofs.Configuration

/-!
# What a series admits

Before its first call a series looks at all of its records. It turns them down exactly if they
are unfit, and then nothing has changed. A lookup sees the first entry of a name only, while the
names that have to agree are those of all entries. What is admitted is never found unfit later:
none of the runs lacks a target or a description of its optimizer.
-/
namespace CgroupBench

variable {σ : Type}

/-- The first entry of this name has this value. -/
def Record.Shows (record : Record) (name : String) (value : Value) : Prop :=
  ∃ before after, record.entries = before ++ (name, value) :: after ∧
    ∀ entry ∈ before, entry.1 ≠ name

theorem Record.get?_eq_some {record : Record} {name : String} {value : Value} :
    record.get? name = some value ↔ record.Shows name value := by
  simp only [get?, List.lookup_eq_some_iff, Shows, bne_iff_ne, ne_comm]

/-- Why no series is made of some records. -/
inductive Unfit (optimizer : Optimizer) (records : List Record) : Prop where
  | empty : records = [] → Unfit optimizer records
  | uneven {first record : Record} : records.head? = some first → record ∈ records →
    record.names ≠ first.names → Unfit optimizer records
  | unnamed {record : Record} : record ∈ records →
    (∀ variant : Variant, ¬ record.Shows Key.cgroupName (.text variant.label)) →
    Unfit optimizer records
  | unlimited {record : Record} : record ∈ records →
    (∀ limit : UInt64, record.Shows Key.cgroupSize (.int limit) → limit = 0) →
    Unfit optimizer records
  | undescribed {record : Record} : record ∈ records →
    record.Shows Key.cgroupName (.text Variant.damon.label) → optimizer.descriptor = none →
    Unfit optimizer records

section

variable {optimizer : Optimizer} {records : List Record} {record : Record}

theorem Runner.accept_eq_ok_of_fit (fit : ¬ Unfit optimizer records) (mem : record ∈ records) :
    accept optimizer record = .ok () := by
  have named : ∃ variant : Variant, record.Shows Key.cgroupName (.text variant.label) := by
    by_contra unnamed
    exact fit (.unnamed mem (not_exists.mp unnamed))
  have limited : ∃ limit : UInt64, record.Shows Key.cgroupSize (.int limit) ∧ limit ≠ 0 := by
    by_contra unlimited
    simp only [not_exists, not_and, not_not] at unlimited
    exact fit (.unlimited mem unlimited)
  obtain ⟨variant, named⟩ := named
  obtain ⟨limit, limited, nonzero⟩ := limited
  have resolved : Target.ofRecord record = .ok ⟨variant, limit⟩ :=
    Target.ofRecord_eq_ok.mpr
      ⟨Record.get?_eq_some.mpr named, Record.get?_eq_some.mpr limited, nonzero⟩
  refine accept_eq_ok.mpr ⟨_, resolved, fun optimized none => ?_⟩
  cases variant with
  | baseline => cases optimized
  | damon => exact fit (.undescribed mem named none)

theorem Unfit.refused (unfit : Unfit optimizer records) :
    Runner.preflight optimizer records ≠ .ok () := by
  intro accepted
  obtain ⟨nonempty, even, accepted⟩ := Runner.preflight_eq_ok.mp accepted
  cases unfit with
  | empty empty => exact nonempty empty
  | uneven first mem uneven => exact uneven (even _ mem _ (List.mem_of_head? first))
  | unnamed mem unnamed =>
    obtain ⟨target, resolved, -⟩ := Runner.accept_eq_ok.mp (accepted _ mem)
    obtain ⟨named, -, -⟩ := Target.ofRecord_eq_ok.mp resolved
    exact unnamed _ (Record.get?_eq_some.mp named)
  | unlimited mem unlimited =>
    obtain ⟨target, resolved, -⟩ := Runner.accept_eq_ok.mp (accepted _ mem)
    obtain ⟨-, limited, nonzero⟩ := Target.ofRecord_eq_ok.mp resolved
    exact nonzero (unlimited _ (Record.get?_eq_some.mp limited))
  | undescribed mem shown none =>
    obtain ⟨target, resolved, described⟩ := Runner.accept_eq_ok.mp (accepted _ mem)
    obtain ⟨named, -, -⟩ := Target.ofRecord_eq_ok.mp resolved
    -- A name has one first entry, so the variant that was resolved is the one that is shown.
    rw [Record.get?_eq_some.mpr shown] at named
    have same := Variant.label_injective (Value.text.inj (Option.some.inj named))
    exact described (same ▸ rfl) none

theorem Runner.preflight_eq_error_iff :
    (∃ fault, preflight optimizer records = .error fault) ↔ Unfit optimizer records := by
  constructor
  · intro ⟨fault, refused⟩
    by_contra fit
    have accepted : preflight optimizer records = .ok () := by
      refine preflight_eq_ok.mpr ⟨fun empty => fit (.empty empty), ?_,
        fun record mem => accept_eq_ok_of_fit fit mem⟩
      cases records with
      | nil => simp
      | cons first rest =>
        have even : ∀ record ∈ first :: rest, record.names = first.names := by
          intro record mem
          by_contra uneven
          exact fit (.uneven rfl mem uneven)
        intro record mem other listed
        exact (even record mem).trans (even other listed).symm
    cases refused.symm.trans accepted
  · intro unfit
    cases result : preflight optimizer records with
    | error fault => exact ⟨fault, rfl⟩
    | ok _ => exact absurd result unfit.refused

end

/-- Each run of accepted records blames the configuration only where its workload does. -/
theorem runs_answerable (host : Host σ) {site : Site} {workload : Workload} {records : List Record}
    (accepted : ∀ record ∈ records, Runner.accept site.tools.optimizer record = .ok ())
    {runner : Runner} (works : runner.WorksAt site) {state : σ} {index : Nat} {record : Record}
    {run : Execution σ (RunEnd × Runner)} (listed : records[index]? = some record)
    (now : (runner.runs host workload records state)[index]? = some run) {fault : Fault}
    (reported : run.value.1.fault? = some fault) : workload.Answerable record fault := by
  induction records generalizing runner state index with
  | nil => cases listed
  | cons first rest ih =>
    obtain ⟨head, others⟩ := List.forall_mem_cons.mp accepted
    obtain ⟨kept, answerable⟩ := run_answerable host workload works head state
    cases index with
    | zero =>
      obtain rfl := Option.some.inj listed
      obtain rfl := Option.some.inj now
      exact answerable fault reported
    | succ index => exact ih others kept listed now

/-- Records are turned down as a whole and without a trace, exactly if they are unfit. The runs
of admitted ones resolve their records, and what they blame on the configuration is what the
workload itself blamed on it. -/
theorem unfit_refused_without_trace (host : Host σ) (workload : Workload) (records : List Record)
    (measurements : List Measurement) (runner : Runner) (state : σ) :
    let optimizer := runner.tools.optimizer
    let checked := Runner.preflight optimizer records
    let series := (runner.runSeries workload records measurements).execute host state
    ((∃ fault, checked = .error fault) ↔ Unfit optimizer records) ∧
      (∀ fault, checked = .error fault → (∃ reason, fault = .configuration reason) ∧
        series = ⟨(⟨.stopped fault, measurements⟩, runner), state, []⟩) ∧
      (checked = .ok () → ∀ (index : Nat) (record : Record), records[index]? = some record →
        (∃ target, Target.ofRecord record = .ok target ∧
          (target.variant.isOptimized = true → optimizer.descriptor ≠ none)) ∧
        ∀ run, (runner.runs host workload records state)[index]? = some run →
          ∀ reason, run.value.1.fault? = some (.configuration reason) →
            workload.command record = .error (.configuration reason) ∨
              ∃ output elapsed, workload.inspect output elapsed =
                .faulty (.configuration reason)) := by
  intro optimizer checked series
  refine ⟨Runner.preflight_eq_error_iff, fun fault refused => ⟨?_, ?_⟩, fun accepted => ?_⟩
  · have blamed := Runner.blames_preflight fault refused
    cases fault with
    | configuration reason => exact ⟨reason, rfl⟩
    | _ => cases blamed
  · exact congrArg (·.execute host state) (runSeries_refused refused)
  · obtain ⟨-, -, accepted⟩ := Runner.preflight_eq_ok.mp accepted
    intro index record listed
    have resolved := accepted record (List.mem_of_getElem? listed)
    refine ⟨Runner.accept_eq_ok.mp resolved, fun run now reason reported => ?_⟩
    exact runs_answerable host accepted runner.worksAt_site listed now reported rfl

/-- Of two entries of one name the first decides: the records are fit, or nothing happens. -/
theorem unfit_refused_without_trace_on_repeated_name :
    let named (labels : List String) : Record :=
      ⟨labels.map (fun label => (Key.cgroupName, .text label)) ++ [(Key.cgroupSize, .int 4096)]⟩
    let runner := Sample.site.fresh .abort .on
    let records := [named ["other", Variant.damon.label]]
    let series := (runner.runSeries Sample.workload records []).execute Sample.schedule.host
      (0, Sample.start)
    ¬ Unfit Sample.site.tools.optimizer [named [Variant.damon.label, "other"]] ∧
      Unfit Sample.site.tools.optimizer records ∧
      ∃ reason, series =
        ⟨(⟨.stopped (.configuration reason), []⟩, runner), (0, Sample.start), []⟩ := by
  intro named runner records series
  have checked (records : List Record) := unfit_refused_without_trace Sample.schedule.host
    Sample.workload records [] runner (0, Sample.start)
  have refused : ∃ fault, Runner.preflight runner.tools.optimizer records = .error fault :=
    ⟨_, rfl⟩
  refine ⟨fun unfit => ?_, (checked _).1.mp refused, ?_⟩
  · obtain ⟨fault, refused⟩ := (checked _).1.mpr unfit
    cases refused
  · obtain ⟨fault, refused⟩ := refused
    obtain ⟨⟨reason, rfl⟩, untouched⟩ := (checked _).2.1 fault refused
    exact ⟨reason, untouched⟩

end CgroupBench
