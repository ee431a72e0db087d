import CgroupBench.Proofs.Standing

/-!
# What unwinding does to a host

`Undone` relates the machine and the footprint before and after a list of reversals. Nothing
comes into being, and where no fault is reported every reversal of the list has taken effect.
The relation is composed reversal by reversal, as unwinding goes. On an unhindered host there
are no faults.
-/
namespace CgroupBench

/-- The fault tells that something may be left on the host. -/
def Fault.isUnrestored : Fault → Bool
  | teardown _ _ | smtRestore _ => true
  | _ => false

structure Undone (todo : List Reversal) (before after : Machine × Footprint)
    (faults : List Fault) : Prop where
  cgroup : ∀ variant, after.2.cgroup variant = before.2.cgroup variant ∨
    after.2.cgroup variant = none
  optimizer : after.2.optimizer = before.2.optimizer ∨ after.2.optimizer = false
  /-- SMT is left alone, or it is switched on where that was owed. -/
  smt : after.2.smt = before.2.smt ∧ after.1 = before.1 ∨
    .enableSmt ∈ todo ∧ before.1.smtDisabled = true ∧ after.2.smt = some "on\n" ∧
      after.1 = { before.1 with smtDisabled := false }
  deleted : faults = [] → ∀ variant, .deleteCgroup variant ∈ todo → after.2.cgroup variant = none
  stopped : faults = [] → .stopOptimizer ∈ todo → after.2.optimizer = false
  enabled : faults = [] → .enableSmt ∈ todo → after.1.smtDisabled = false
  unrestored : ∀ fault ∈ faults, fault.isUnrestored = true

namespace Undone

variable {reversal : Reversal} {todo : List Reversal} {before middle after : Machine × Footprint}
  {first rest : List Fault}

theorem nil (both : Machine × Footprint) : Undone [] both both [] where
  cgroup _ := .inl rfl
  optimizer := .inl rfl
  smt := .inl ⟨rfl, rfl⟩
  deleted _ _ mem := absurd mem List.not_mem_nil
  stopped _ mem := absurd mem List.not_mem_nil
  enabled _ mem := absurd mem List.not_mem_nil
  unrestored _ mem := absurd mem List.not_mem_nil

/-- A reversal that failed and did nothing. -/
theorem failed {fault : Fault} (both : Machine × Footprint)
    (unrestored : fault.isUnrestored = true) :
    Undone todo both both [fault] where
  cgroup _ := .inl rfl
  optimizer := .inl rfl
  smt := .inl ⟨rfl, rfl⟩
  deleted none := absurd none (List.cons_ne_nil _ _)
  stopped none := absurd none (List.cons_ne_nil _ _)
  enabled none := absurd none (List.cons_ne_nil _ _)
  unrestored := by simpa using unrestored

/-! The reversals that worked, one by one. -/

theorem settled (both : Machine × Footprint) (settled : both.1.smtDisabled = false) :
    Undone [.enableSmt] both both [] where
  cgroup _ := .inl rfl
  optimizer := .inl rfl
  smt := .inl ⟨rfl, rfl⟩
  deleted _ _ mem := by simp at mem
  stopped _ mem := by simp at mem
  enabled _ _ := settled
  unrestored _ mem := absurd mem List.not_mem_nil

theorem paid (machine : Machine) (now : Footprint) (owed : machine.smtDisabled = true) :
    Undone [.enableSmt] (machine, now)
      ({ machine with smtDisabled := false }, { now with smt := some "on\n" }) [] where
  cgroup _ := .inl rfl
  optimizer := .inl rfl
  smt := .inr ⟨.head _, owed, rfl, rfl⟩
  deleted _ _ mem := by simp at mem
  stopped _ mem := by simp at mem
  enabled _ _ := rfl
  unrestored _ mem := absurd mem List.not_mem_nil

theorem gone (machine : Machine) (now : Footprint) (variant : Variant) :
    Undone [.deleteCgroup variant] (machine, now) (machine, now.put variant none) [] where
  cgroup other := by
    by_cases same : other = variant
    · subst same
      simp [Footprint.put]
    · simp [Footprint.put, same]
  optimizer := .inl rfl
  smt := .inl ⟨rfl, rfl⟩
  deleted _ other mem := by
    obtain rfl := Reversal.deleteCgroup.inj (List.mem_singleton.mp mem)
    simp [Footprint.put]
  stopped _ mem := by simp at mem
  enabled _ mem := by simp at mem
  unrestored _ mem := absurd mem List.not_mem_nil

theorem detached (machine : Machine) (now : Footprint) :
    Undone [.stopOptimizer] (machine, now) (machine, { now with optimizer := false }) [] where
  cgroup _ := .inl rfl
  optimizer := .inr rfl
  smt := .inl ⟨rfl, rfl⟩
  deleted _ _ mem := by simp at mem
  stopped _ _ := rfl
  enabled _ mem := by simp at mem
  unrestored _ mem := absurd mem List.not_mem_nil

theorem machine_smtDisabled (h : Undone todo before after first)
    (settled : before.1.smtDisabled = false) :
    after.1.smtDisabled = false := by
  rcases h.smt with ⟨-, same⟩ | ⟨-, owed, -⟩
  · rw [same, settled]
  · rw [settled] at owed
    cases owed

/-- A debt is never taken on. -/
theorem owed (h : Undone todo before after first) (still : after.1.smtDisabled = true) :
    before.1.smtDisabled = true := by
  by_contra settled
  rw [h.machine_smtDisabled (Bool.eq_false_iff.mpr settled)] at still
  cases still

theorem machine_same (h : Undone todo before after first) :
    ∃ smtDisabled, after.1 = { before.1 with smtDisabled } := by
  rcases h.smt with ⟨-, same⟩ | ⟨-, -, -, same⟩ <;> exact ⟨_, same⟩

theorem cons (head : Undone [reversal] before middle first) (tail : Undone todo middle after rest) :
    Undone (reversal :: todo) before after (first ++ rest) where
  cgroup variant := by
    rcases tail.cgroup variant with same | gone
    · rw [same]
      exact head.cgroup variant
    · exact .inr gone
  optimizer := by
    rcases tail.optimizer with same | gone
    · rw [same]
      exact head.optimizer
    · exact .inr gone
  smt := by
    rcases tail.smt with ⟨same, machine⟩ | ⟨mem, owed, on, machine⟩
    · rw [same, machine]
      exact head.smt.imp_right fun ⟨mem, h⟩ => ⟨by simp_all, h⟩
    · rcases head.smt with ⟨-, same⟩ | ⟨-, -, -, paid⟩
      · rw [same] at owed machine
        exact .inr ⟨.tail _ mem, owed, on, machine⟩
      · rw [paid] at owed
        cases owed
  deleted none variant mem := by
    obtain ⟨none₁, none₂⟩ := List.append_eq_nil_iff.mp none
    rcases List.mem_cons.mp mem with rfl | mem
    · have gone := head.deleted none₁ variant (.head _)
      rcases tail.cgroup variant with same | gone'
      · rw [same, gone]
      · exact gone'
    · exact tail.deleted none₂ variant mem
  stopped none mem := by
    obtain ⟨none₁, none₂⟩ := List.append_eq_nil_iff.mp none
    rcases List.mem_cons.mp mem with rfl | mem
    · have stopped := head.stopped none₁ (.head _)
      rcases tail.optimizer with same | stopped'
      · rw [same, stopped]
      · exact stopped'
    · exact tail.stopped none₂ mem
  enabled none mem := by
    obtain ⟨none₁, none₂⟩ := List.append_eq_nil_iff.mp none
    rcases List.mem_cons.mp mem with rfl | mem
    · exact tail.machine_smtDisabled (head.enabled none₁ (.head _))
    · exact tail.enabled none₂ mem
  unrestored fault mem := by
    rcases List.mem_append.mp mem with mem | mem
    · exact head.unrestored fault mem
    · exact tail.unrestored fault mem

end Undone

theorem verdict_ok {faults : List Fault} (h : verdict faults = .ok ()) : faults = [] := by
  cases faults with
  | nil => rfl
  | cons fault rest =>
    rw [verdict] at h
    cases found : (fault :: rest).find? Fault.isSmtRestore <;> simp [found] at h

theorem verdict_error {faults : List Fault} {fault : Fault} (h : verdict faults = .error fault) :
    fault ∈ faults := by
  rw [verdict] at h
  cases found : faults.find? Fault.isSmtRestore with
  | some first =>
    simp only [found, Option.some_or, Except.error.injEq] at h
    exact h ▸ List.mem_of_find?_eq_some found
  | none =>
    cases first : faults.head? with
    | none => simp [found, first] at h
    | some head =>
      simp only [found, first, Option.none_or, Except.error.injEq] at h
      exact h ▸ List.mem_of_head? first

/-- Unwinding leaves the books alone, and the SMT control unless a debt is paid. -/
structure Standing.Unmoved (before after : Standing) (owed : Prop) : Prop where
  cleanup : after.cleanup = before.cleanup
  underway : after.underway = before.underway
  touched : after.touched = true → before.touched = true ∨ owed

def faultsOf : Except Fault Unit → List Fault
  | .ok () => []
  | .error fault => [fault]

section

variable {σ : Type} {site : Site} {host : Host σ} {see : σ → Footprint}
  {point : Standing → σ → Prop} {standing : Standing} {state : σ} {machine : Machine}

/-- What holds once some reversals have been carried out. -/
structure Unwound (see : σ → Footprint) (todo : List Reversal) (machine : Machine)
    (standing : Standing) (state : σ) (faults : List Fault) (machine' : Machine)
    (standing' : Standing) (state' : σ) : Prop where
  undone : Undone todo (machine, see state) (machine', see state') faults
  unmoved : standing.Unmoved standing' (.enableSmt ∈ todo ∧ machine.smtDisabled = true)

theorem Unwound.smtControl {todo : List Reversal} {faults : List Fault} {machine' : Machine}
    {standing' : Standing} {state' : σ}
    (h : Unwound see todo machine standing state faults machine' standing' state') :
    machine'.smtControl = machine.smtControl := by
  obtain ⟨_, same⟩ := h.undone.machine_same
  exact (congrArg Machine.smtControl same).trans rfl

theorem Unwound.cons {reversal : Reversal} {todo : List Reversal} {first rest : List Fault}
    {machine₁ machine₂ : Machine} {standing₁ standing₂ : Standing} {state₁ state₂ : σ}
    (head : Unwound see [reversal] machine standing state first machine₁ standing₁ state₁)
    (tail : Unwound see todo machine₁ standing₁ state₁ rest machine₂ standing₂ state₂) :
    Unwound see (reversal :: todo) machine standing state (first ++ rest) machine₂ standing₂
      state₂ where
  undone := head.undone.cons tail.undone
  unmoved :=
    { cleanup := tail.unmoved.cleanup.trans head.unmoved.cleanup
      underway := tail.unmoved.underway.trans head.unmoved.underway
      touched := fun touched => by
        rcases tail.unmoved.touched touched with touched | ⟨mem, owed⟩
        · refine (head.unmoved.touched touched).imp_right fun ⟨mem, owed⟩ => ⟨?_, owed⟩
          rw [List.mem_singleton.mp mem]
          exact .head _
        · exact .inr ⟨.tail _ mem, head.undone.owed owed⟩ }

variable (faithful : Faithful site host see) (apart : site.controls.Nodup)
  (calm : ∀ standing state, standing.underway = false → point standing state)
include faithful apart calm

theorem ensures_enableSmt (state : σ) (control : machine.smtControl = site.smtControl)
    (rest : standing.underway = false) :
    (Standing.watch site host point).Ensures (Machine.enableSmt machine) standing state
      fun out => Unwound see [.enableSmt] machine standing state (faultsOf out.1) out.2 := by
  cases settled : machine.smtDisabled with
  | false =>
    rw [Machine.enableSmt_settled settled]
    exact ⟨.settled _ settled, rfl, rfl, .inl⟩
  | true =>
    have listed : machine.smtControl ∈ site.controls := control ▸ .head _
    rw [Machine.enableSmt_owing settled]
    refine Watch.Ensures.bind (ensures_call (faithful.write _ listed _) ?_)
    rintro (cause | _) state' law
    · refine ⟨calm _ _ rest, ?_, rfl, rfl, fun _ => .inr ⟨.head _, settled⟩⟩
      rw [show see state' = see state from law]
      exact .failed _ rfl
    · rw [Footprint.Writes, control, Footprint.write_smtControl apart] at law
      refine ⟨calm _ _ rest, ?_, rfl, rfl, fun _ => .inr ⟨.head _, settled⟩⟩
      rw [law]
      exact .paid machine _ settled

theorem ensures_perform (control : machine.smtControl = site.smtControl)
    (rest : standing.underway = false) (reversal : Reversal) :
    (Standing.watch site host point).Ensures (reversal.perform site.tools machine) standing state
      fun out => Unwound see [reversal] machine standing state (faultsOf out.1) out.2 := by
  cases reversal with
  | enableSmt => exact ensures_enableSmt faithful apart calm state control rest
  | deleteCgroup variant =>
    refine Watch.Ensures.bind (ensures_delete faithful ?_ ?_)
    · intro state' gone
      refine ⟨calm _ _ rest, ?_, rfl, rfl, .inl⟩
      rw [gone]
      exact .gone machine _ variant
    · intro cause state' same
      refine ⟨calm _ _ rest, ?_, rfl, rfl, .inl⟩
      rw [same]
      exact .failed _ rfl
  | stopOptimizer =>
    refine Watch.Ensures.bind (ensures_detach faithful ?_ ?_)
    · intro state' stopped
      refine ⟨calm _ _ rest, ?_, rfl, rfl, .inl⟩
      rw [stopped]
      exact .detached machine _
    · intro cause state' same
      refine ⟨calm _ _ rest, ?_, rfl, rfl, .inl⟩
      rw [same]
      exact .failed _ rfl

theorem ensures_performAll (control : machine.smtControl = site.smtControl)
    (rest : standing.underway = false) (todo : List Reversal) :
    (Standing.watch site host point).Ensures (Reversal.performAll site.tools todo machine) standing
      state fun out standing' state' =>
        Unwound see todo machine standing state out.1 out.2 standing' state' := by
  induction todo generalizing machine standing state with
  | nil => exact ⟨.nil _, rfl, rfl, .inl⟩
  | cons reversal todo ih =>
    refine ⟨calm _ _ rest, ?_⟩
    refine (ensures_perform faithful apart calm control rest reversal).andThen ?_
    rintro ⟨result, machine₁⟩ standing₁ state₁ head
    refine (ih (head.smtControl.trans control) (head.unmoved.underway.trans rest)).andThen ?_
    rintro ⟨faults, machine₂⟩ standing₂ state₂ tail
    rcases result with fault | _
    · exact head.cons tail
    · exact head.cons tail

theorem ensures_unwind (state : σ) (control : machine.smtControl = site.smtControl)
    (rest : standing.underway = false) (todo : List Reversal) :
    (Standing.watch site host point).Ensures (unwind site.tools todo machine) standing state
      fun out standing' state' => ∃ faults, out.1 = verdict faults ∧
        Unwound see todo machine standing state faults out.2 standing' state' := by
  refine (ensures_performAll faithful apart calm control rest todo).andThen ?_
  intro out standing' state' unwound
  exact ⟨out.1, rfl, unwound⟩

end
end CgroupBench
