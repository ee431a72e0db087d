import CgroupBench.Proofs.Undoing

/-!
# Reversals in turn

An unwinding carries out its reversals one after another. Each finds the machine and the host as
the one before it left them, whatever became of that one, and the unwinding leaves both as the last
one did. Only its report looks at how they ended: a failed restore of SMT is reported before any
other failure, and among equals the first.
-/
namespace CgroupBench

variable {σ : Type}

/-- The executions of the reversals one after another, where faults change nothing for those that
follow. -/
def Reversal.inTurn (tools : Tools) (host : Host σ) :
    List Reversal → Machine → σ → List (Execution σ (Except Fault Unit × Machine))
  | [], _, _ => []
  | reversal :: rest, machine, state =>
    let turn := (reversal.perform tools machine).execute host state
    turn :: inTurn tools host rest turn.value.2 turn.host

theorem Reversal.length_inTurn (tools : Tools) (host : Host σ) (reversals : List Reversal)
    (machine : Machine) (state : σ) :
    (inTurn tools host reversals machine state).length = reversals.length := by
  induction reversals generalizing machine state with
  | nil => rfl
  | cons reversal rest ih => exact congrArg (· + 1) (ih ..)

/-- The first of these results that is a fault of this kind. -/
def FirstFault (kind : Fault → Bool) (results : List (Except Fault Unit)) (fault : Fault) : Prop :=
  ∃ before after, results = before ++ .error fault :: after ∧ kind fault = true ∧
    ∀ earlier, .error earlier ∈ before → kind earlier = false

variable {kind : Fault → Bool} {results : List (Except Fault Unit)} {fault : Fault}

theorem mem_flatMap_faultsOf : fault ∈ results.flatMap faultsOf ↔ .error fault ∈ results := by
  rw [List.mem_flatMap]
  constructor
  · rintro ⟨result, listed, mem⟩
    cases result with
    | ok done => cases mem
    | error other =>
      obtain rfl := List.mem_singleton.1 mem
      exact listed
  · intro listed
    exact ⟨_, listed, .head _⟩

theorem flatMap_faultsOf_eq_nil :
    results.flatMap faultsOf = [] ↔ ∀ result ∈ results, result = .ok () := by
  rw [List.flatMap_eq_nil_iff]
  refine forall₂_congr fun result _ => ?_
  rcases result with fault | done
  · simp [faultsOf]
  · simp [faultsOf]

theorem find?_faultsOf {result : Except Fault Unit} :
    (faultsOf result).find? kind = some fault ↔ result = .error fault ∧ kind fault = true := by
  rcases result with other | done
  · simp only [faultsOf, List.find?_singleton, Option.ite_none_right_eq_some, Option.some.injEq,
      Except.error.injEq]
    constructor
    · rintro ⟨holds, rfl⟩
      exact ⟨rfl, holds⟩
    · rintro ⟨rfl, holds⟩
      exact ⟨holds, rfl⟩
  · simp [faultsOf]

/-- The first fault of a kind is what a search through all faults finds. -/
theorem find?_flatMap_faultsOf :
    (results.flatMap faultsOf).find? kind = some fault ↔ FirstFault kind results fault := by
  rw [List.find?_flatMap, List.findSome?_eq_some_iff, FirstFault]
  constructor
  · rintro ⟨before, result, after, split, found, none⟩
    obtain ⟨rfl, holds⟩ := find?_faultsOf.1 found
    refine ⟨before, after, split, holds, fun earlier mem => ?_⟩
    simpa [faultsOf] using none _ mem
  · rintro ⟨before, after, split, holds, none⟩
    refine ⟨before, _, after, split, find?_faultsOf.2 ⟨rfl, holds⟩, fun result mem => ?_⟩
    rcases result with earlier | done
    · simpa [faultsOf] using none earlier mem
    · rfl

/-- A search for faults of SMT goes before one for any fault. -/
theorem verdict_eq_error {faults : List Fault} :
    verdict faults = .error fault ↔ faults.find? Fault.isSmtRestore = some fault ∨
      faults.find? Fault.isSmtRestore = none ∧ faults.find? (fun _ => true) = some fault := by
  have first : faults.find? (fun _ => true) = faults.head? := by cases faults <;> rfl
  rw [verdict, first]
  cases faults.find? Fault.isSmtRestore with
  | some smt => simp
  | none => cases faults.head? <;> simp

theorem performAll_cons (tools : Tools) (reversal : Reversal) (rest : List Reversal)
    (machine : Machine) :
    Reversal.performAll tools (reversal :: rest) machine =
      .note (.reversing reversal) (reversal.perform tools machine >>= fun out =>
        Reversal.performAll tools rest out.2 >>= fun left =>
          pure (faultsOf out.1 ++ left.1, left.2)) := by
  show Procedure.note _ (reversal.perform tools machine >>= _) = _
  congr 2
  funext ⟨result, machine⟩
  rcases result with fault | done <;> rfl

/-- An unwinding goes turn by turn. What it collects on the way are the faults of the turns. -/
theorem performAll_execute (tools : Tools) (host : Host σ) (reversals : List Reversal)
    (machine : Machine) (state : σ) :
    let turns := Reversal.inTurn tools host reversals machine state
    let left := (turns.map fun turn => (turn.value.2, turn.host)).getLastD (machine, state)
    (Reversal.performAll tools reversals machine).execute host state =
      { value := ((turns.map (·.value.1)).flatMap faultsOf, left.1)
        host := left.2
        history := (reversals.zip turns).flatMap fun (reversal, turn) =>
          .noted (.reversing reversal) :: turn.history } := by
  induction reversals generalizing machine state with
  | nil => rfl
  | cons reversal rest ih =>
    simp only [performAll_cons, Procedure.execute, Procedure.execute_bind, Procedure.execute_pure,
      ih, Reversal.inTurn, List.map_cons, List.getLastD_cons, List.flatMap_cons,
      List.zip_cons_cons, List.cons_append, List.append_nil]

/-- Every reversal has its turn, once and in the order given, and an unwinding leaves the machine
and the host as these turns do. It succeeds if each of them did; otherwise it reports the first
restore of SMT that failed, or else the first failure. -/
theorem unwind_in_turn (tools : Tools) (host : Host σ) (reversals : List Reversal)
    (machine : Machine) (state : σ) :
    let run := (unwind tools reversals machine).execute host state
    let turns := Reversal.inTurn tools host reversals machine state
    let results := turns.map (·.value.1)
    turns.length = reversals.length ∧
      run.history = (reversals.zip turns).flatMap (fun (reversal, turn) =>
        .noted (.reversing reversal) :: turn.history) ∧
      (run.value.2, run.host) =
        (turns.map fun turn => (turn.value.2, turn.host)).getLastD (machine, state) ∧
      (run.value.1 = .ok () ↔ ∀ result ∈ results, result = .ok ()) ∧
      ∀ fault, run.value.1 = .error fault ↔
        FirstFault Fault.isSmtRestore results fault ∨
          (∀ other, .error other ∈ results → other.isSmtRestore = false) ∧
            FirstFault (fun _ => true) results fault := by
  intro run turns results
  have whole : run = _ := Procedure.execute_bind host _ _ state
  simp only [performAll_execute, Procedure.execute_pure, List.append_nil] at whole
  have report : run.value.1 = verdict (results.flatMap faultsOf) := by rw [whole]
  refine ⟨Reversal.length_inTurn tools host reversals machine state, by rw [whole], by rw [whole],
    ?_, ?_⟩
  · rw [report, ← flatMap_faultsOf_eq_nil]
    exact ⟨verdict_ok, fun none => by rw [none]; rfl⟩
  · intro fault
    have noSmt : (results.flatMap faultsOf).find? Fault.isSmtRestore = none ↔
        ∀ other, .error other ∈ results → other.isSmtRestore = false := by
      simp only [List.find?_eq_none, mem_flatMap_faultsOf, Bool.not_eq_true]
    rw [report, verdict_eq_error, find?_flatMap_faultsOf, find?_flatMap_faultsOf, noSmt]

end CgroupBench
