import CgroupBench.Series

/-!
# How a run ends

A run is an attempt and, unless its workload broke down, an unwinding after it. How it ends is
told by how these two went, and by nothing else.
-/
namespace CgroupBench

variable {σ : Type}

namespace RunEnd

/-- The end of a run, by how its attempt and its unwinding went. -/
def ofPhases : Except Fault (Option Measurement) → Except Fault Unit → RunEnd
  | .ok none, _ => .panicked
  | .ok (some measurement), .ok () => .completed measurement
  | .ok (some measurement), .error unrestored => .fatal unrestored (some measurement)
  | .error fault, .ok () =>
    match fault.severity with
    | .run => .failed fault
    | .fatal => .fatal fault none
  | .error _, .error unrestored => .fatal unrestored none

/-- The measurement that a run leaves behind. -/
def measurement? : RunEnd → Option Measurement
  | completed measurement => some measurement
  | fatal _ measurement => measurement
  | failed _ | panicked => none

theorem measurement?_ofPhases {attempted : Except Fault (Option Measurement)}
    {unwound : Except Fault Unit} {measurement : Measurement}
    (left : (ofPhases attempted unwound).measurement? = some measurement) :
    attempted = .ok (some measurement) := by
  match attempted, unwound with
  | .ok none, _ => cases left
  | .ok (some _), .ok () | .ok (some _), .error _ => exact congrArg Except.ok left
  | .error fault, .ok () =>
    rw [ofPhases] at left
    cases severity : fault.severity <;> simp [severity, measurement?] at left
  | .error _, .error _ => cases left

/-- The fault that a run is reported with. -/
def fault? : RunEnd → Option Fault
  | failed fault | fatal fault _ => some fault
  | completed _ | panicked => none

section

variable {attempted : Except Fault (Option Measurement)} {unwound : Except Fault Unit}
  {measurement : Measurement} {fault : Fault}

theorem fault?_ofPhases (reported : (ofPhases attempted unwound).fault? = some fault) :
    attempted = .error fault ∨ unwound = .error fault := by
  match attempted, unwound with
  | .ok none, _ | .ok (some _), .ok () => cases reported
  | .ok (some _), .error _ | .error _, .error _ =>
    exact .inr (congrArg Except.error (Option.some.inj reported))
  | .error cause, .ok () =>
    rw [ofPhases] at reported
    cases severity : cause.severity <;>
      · rw [severity] at reported
        exact .inl (congrArg Except.error (Option.some.inj reported))

theorem ofPhases_eq_completed :
    ofPhases attempted unwound = .completed measurement ↔
      attempted = .ok (some measurement) ∧ unwound = .ok () := by
  rcases attempted with cause | _ | _ <;> rcases unwound with _ | _ <;> simp [ofPhases]
  cases cause.severity <;> simp

theorem ofPhases_eq_failed :
    ofPhases attempted unwound = .failed fault ↔
      attempted = .error fault ∧ fault.severity = .run ∧ unwound = .ok () := by
  rcases attempted with cause | _ | _ <;> rcases unwound with _ | _ <;> simp [ofPhases]
  cases severity : cause.severity
  · simp only [failed.injEq, iff_self_and]
    rintro rfl
    exact severity
  · simp only [reduceCtorEq, false_iff]
    rintro ⟨rfl, run⟩
    rw [severity] at run
    cases run

theorem ofPhases_eq_fatal_some :
    (∃ fault, ofPhases attempted unwound = .fatal fault (some measurement)) ↔
      attempted = .ok (some measurement) ∧ unwound ≠ .ok () := by
  rcases attempted with cause | _ | _ <;> rcases unwound with _ | _ <;> simp [ofPhases]
  cases cause.severity <;> simp

theorem ofPhases_eq_panicked : ofPhases attempted unwound = .panicked ↔ attempted = .ok none := by
  rcases attempted with cause | _ | _ <;> rcases unwound with _ | _ <;> simp [ofPhases]
  cases cause.severity <;> simp

/-- A host that could not be restored is what is reported, whatever else went wrong. -/
theorem ofPhases_error (unbroken : attempted ≠ .ok none) :
    ∃ measurement, ofPhases attempted (.error fault) = .fatal fault measurement := by
  rcases attempted with cause | _ | measured
  · exact ⟨none, rfl⟩
  · exact absurd rfl unbroken
  · exact ⟨some measured, rfl⟩

theorem ofPhases_fatal (fatal : fault.severity = .fatal) (unwound : Except Fault Unit) :
    ∃ fault' measurement, ofPhases (.error fault) unwound = .fatal fault' measurement := by
  rcases unwound with unrestored | _
  · exact ⟨unrestored, none, rfl⟩
  · exact ⟨fault, none, by simp [ofPhases, fatal]⟩

end

end RunEnd

namespace Runner

/-- The runner with one more stage entered. -/
def into (stage : Stage) (runner : Runner) : Runner :=
  { runner with stage, stages := runner.stages ++ [stage] }

/-- The first thing that an unwinding does is to drain what is pending. -/
theorem tearDown_drains (host : Host σ) (runner : Runner) (state : σ) :
    ∃ rest, ((tearDown runner).execute host state).history = .noted .drained :: rest :=
  ⟨_, rfl⟩

theorem rollBack_eq (fault : Fault) (runner : Runner) :
    rollBack fault runner = .note (.entered .aborted)
      (tearDown (runner.into .aborted) >>= fun unwound =>
        .finish (.ofPhases (.error fault) unwound.1, unwound.2)) := by
  refine congrArg (Procedure.note _) (congrArg (tearDown (runner.into .aborted) >>= ·) ?_)
  funext unwound
  rcases unwound with ⟨_ | _, after⟩
  · rfl
  · cases severity : fault.severity <;> simp [RunEnd.ofPhases, severity, pure]

/-- The stage in which an unwinding after a measurement ends the run. -/
def lastStage : Except Fault Unit → Stage
  | .ok () => .done
  | .error _ => .aborted

theorem conclude_eq (measurement : Measurement) (runner : Runner) :
    conclude measurement runner = .note (.entered .tearingDown)
      (tearDown (runner.into .tearingDown) >>= fun unwound =>
        .note (.entered (lastStage unwound.1))
          (.finish (.ofPhases (.ok (some measurement)) unwound.1,
            unwound.2.into (lastStage unwound.1)))) := by
  refine congrArg (Procedure.note _) (congrArg (tearDown (runner.into .tearingDown) >>= ·) ?_)
  funext unwound
  rcases unwound with ⟨_ | _, after⟩ <;> rfl

/-- What a run does after its attempt. -/
def wrapUp : Except Fault (Option Measurement) × Runner → Procedure (RunEnd × Runner)
  | (.ok (some measurement), runner) => conclude measurement runner
  | (.ok none, runner) => return (.panicked, runner)
  | (.error fault, runner) => rollBack fault runner

theorem run_eq (workload : Workload) (record : Record) (runner : Runner) :
    run workload record runner = attempt workload record runner >>= wrapUp :=
  rfl

/-- Unless its workload broke down, a run enters a stage, unwinds, and may enter one more. -/
theorem wrapUp_execute (host : Host σ) {result : Except Fault (Option Measurement)}
    (unbroken : result ≠ .ok none) (runner : Runner) (state : σ) :
    let ended := (wrapUp (result, runner)).execute host state
    ∃ stage last,
      let unwound := (tearDown (runner.into stage)).execute host state
      ended.value.1 = .ofPhases result unwound.value.1 ∧
        ended.history = .noted (.entered stage) :: (unwound.history ++ last) ∧
        ∀ event ∈ last, ∃ stage, event = .noted (.entered stage) := by
  rcases result with fault | _ | measurement
  · rw [show wrapUp (.error fault, runner) = _ from rollBack_eq fault runner, Procedure.execute,
      Procedure.execute_bind]
    exact ⟨.aborted, [], rfl, rfl, List.forall_mem_nil _⟩
  · exact absurd rfl unbroken
  · rw [show wrapUp (.ok (some measurement), runner) = _ from conclude_eq measurement runner,
      Procedure.execute, Procedure.execute_bind]
    exact ⟨.tearingDown, _, rfl, rfl, fun event mem => ⟨_, List.mem_singleton.mp mem⟩⟩

/-- A run whose workload broke down is its attempt and nothing else. -/
theorem run_execute_broken (host : Host σ) {workload : Workload} {record : Record}
    {runner : Runner} {state : σ}
    (broke : ((attempt workload record runner).execute host state).value.1 = .ok none) :
    ((run workload record runner).execute host state).value.1 = .panicked ∧
      ((run workload record runner).execute host state).history =
        ((attempt workload record runner).execute host state).history := by
  rw [run_eq, Procedure.execute_bind]
  revert broke
  rcases (attempt workload record runner).execute host state with ⟨⟨result, after⟩, left, history⟩
  rintro rfl
  exact ⟨rfl, List.append_nil _⟩

theorem run_execute (host : Host σ) {workload : Workload} {record : Record} {runner : Runner}
    {state : σ}
    (unbroken : ((attempt workload record runner).execute host state).value.1 ≠ .ok none) :
    let attempted := (attempt workload record runner).execute host state
    let run := (run workload record runner).execute host state
    ∃ stage last,
      let unwound := (tearDown (attempted.value.2.into stage)).execute host attempted.host
      run.value.1 = .ofPhases attempted.value.1 unwound.value.1 ∧
        run.history = attempted.history ++ .noted (.entered stage) :: (unwound.history ++ last) ∧
        ∀ event ∈ last, ∃ stage, event = .noted (.entered stage) := by
  intro attempted run
  obtain ⟨stage, last, value, history, stages⟩ :=
    wrapUp_execute host unbroken attempted.value.2 attempted.host
  have composed : run = _ :=
    Procedure.execute_bind host (attempt workload record runner) wrapUp state
  refine ⟨stage, last, ?_, ?_, stages⟩
  · rw [composed]
    exact value
  · rw [composed]
    exact congrArg (attempted.history ++ ·) history

end Runner
end CgroupBench
