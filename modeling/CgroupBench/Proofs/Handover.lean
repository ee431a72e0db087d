import CgroupBench.Cleanup
import Mathlib.Data.List.Basic
import Mathlib.Data.List.Induction

/-!
# What termination handlers are given

A handler takes the journal, and a second one should not find the same reversals in it again.
Taking empties the journal only, so the pending list still has what was handed over, and the next
registration sets the journal to all of it. A drain in between forgets it; nothing else does.
-/
namespace CgroupBench.Cleanup

/-- What is done to the pending list and its journal: the first two by a run, the last by a
handler, at any moment between them. -/
inductive Operation where
  | register (reversal : Reversal)
  | drain
  | take
deriving DecidableEq, Repr

def Operation.registered? : Operation → Option Reversal
  | .register reversal => some reversal
  | .drain | .take => none

def perform (cleanup : Cleanup) : Operation → Cleanup
  | .register reversal => cleanup.register reversal
  | .drain => cleanup.drain.2
  | .take => cleanup.take.2

def after (operations : List Operation) : Cleanup :=
  operations.foldl perform {}

@[simp]
theorem after_concat (operations : List Operation) (operation : Operation) :
    after (operations ++ [operation]) = (after operations).perform operation :=
  List.foldl_append

/-- The reversal registered at the place, if no drain came after it. -/
def undrained? (operations : List Operation) (place : Nat) : Option Reversal :=
  if .drain ∈ operations.drop place then none else operations[place]?.bind Operation.registered?

/-- The registrations that no drain came after, each with its place, oldest first. A reversal that
is registered at two places is here twice. -/
def undrained (operations : List Operation) : List (Nat × Reversal) :=
  (List.range operations.length).filterMap fun place =>
    (undrained? operations place).map (place, ·)

theorem Operation.registered?_eq_some {operation : Operation} {reversal : Reversal} :
    operation.registered? = some reversal ↔ operation = .register reversal := by
  cases operation <;> simp [registered?]

theorem undrained?_eq_some {operations : List Operation} {place : Nat} {reversal : Reversal} :
    undrained? operations place = some reversal ↔
      operations[place]? = some (.register reversal) ∧ .drain ∉ operations.drop place := by
  rw [undrained?]
  by_cases drained : .drain ∈ operations.drop place
  · simp [drained]
  · simp [drained, Option.bind_eq_some_iff, Operation.registered?_eq_some]

theorem mem_undrained {operations : List Operation} {occurrence : Nat × Reversal} :
    occurrence ∈ undrained operations ↔
      undrained? operations occurrence.1 = some occurrence.2 := by
  rw [undrained, List.mem_filterMap]
  constructor
  · rintro ⟨other, -, found⟩
    obtain ⟨kept, standing, rfl⟩ := Option.map_eq_some_iff.1 found
    exact standing
  · intro found
    have within := (List.getElem?_eq_some_iff.1 (undrained?_eq_some.1 found).1).1
    exact ⟨occurrence.1, List.mem_range.2 within, by rw [found]; rfl⟩

/-- What is done later leaves a registration standing unless it drains. -/
theorem undrained?_append {operations : List Operation} {place : Nat}
    (within : place < operations.length) (later : List Operation) :
    undrained? (operations ++ later) place =
      if .drain ∈ later then none else undrained? operations place := by
  ext reversal
  rw [undrained?_eq_some, List.getElem?_append_left within,
    List.drop_append_of_le_length (Nat.le_of_lt within), List.mem_append, not_or, ← and_assoc,
    ← undrained?_eq_some]
  by_cases drained : .drain ∈ later <;> simp [drained]

theorem mem_undrained_append {operations : List Operation} {occurrence : Nat × Reversal}
    (mem : occurrence ∈ undrained operations) (later : List Operation) :
    occurrence ∈ undrained (operations ++ later) ↔ .drain ∉ later := by
  rw [mem_undrained] at mem ⊢
  have within := (List.getElem?_eq_some_iff.1 (undrained?_eq_some.1 mem).1).1
  rw [undrained?_append within, mem]
  simp

theorem undrained_concat (operations : List Operation) (operation : Operation) :
    undrained (operations ++ [operation]) =
      match operation with
      | .register reversal => undrained operations ++ [(operations.length, reversal)]
      | .drain => []
      | .take => undrained operations := by
  have last : undrained? (operations ++ [operation]) operations.length =
      operation.registered? := by
    rw [undrained?, List.getElem?_concat_length, List.drop_left]
    cases operation <;> rfl
  have earlier : ∀ place ∈ List.range operations.length,
      (undrained? (operations ++ [operation]) place).map (place, ·) =
        if .drain ∈ [operation] then none else (undrained? operations place).map (place, ·) := by
    intro place within
    rw [undrained?_append (List.mem_range.1 within)]
    split <;> rfl
  rw [undrained, List.length_append, List.length_singleton, List.range_succ,
    List.filterMap_append, List.filterMap_congr earlier]
  cases operation with
  | register reversal => simp [undrained, last, Operation.registered?]
  | drain => simp [last, Operation.registered?]
  | take => simp [undrained, last, Operation.registered?]

theorem pending_after (operations : List Operation) :
    (after operations).pending = (undrained operations).map Prod.snd := by
  induction operations using List.reverseRecOn with
  | nil => rfl
  | append_singleton operations operation ih =>
    rw [after_concat, undrained_concat]
    cases operation with
    | register reversal => simp [perform, register, ih]
    | drain => rfl
    | take => exact ih

/-- The registrations whose reversals a handler is given that takes the journal now. -/
def handed (operations : List Operation) : List (Nat × Reversal) :=
  if operations.getLast? = some .take then [] else undrained operations

theorem take_after (operations : List Operation) :
    (after operations).take.1 = (handed operations).map Prod.snd := by
  cases operations using List.reverseRecOn with
  | nil => rfl
  | append_singleton operations operation =>
    have pending := pending_after (operations ++ [operation])
    rw [after_concat] at pending ⊢
    rw [handed, List.getLast?_concat]
    cases operation with
    | register reversal => exact pending
    | drain => exact pending
    | take => rfl

/-- What one handler was given is given to the next one too exactly if the run registered
something just before, and drained nothing since. -/
theorem handed_again_iff (before between : List Operation) :
    let again := before ++ .take :: between
    (after before).take.1 = (handed before).map Prod.snd ∧
      (after again).take.1 = (handed again).map Prod.snd ∧
      ∀ occurrence ∈ handed before,
        before[occurrence.1]? = some (.register occurrence.2) ∧
          (occurrence ∈ handed again ↔
            .drain ∉ between ∧ ∃ reversal, between.getLast? = some (.register reversal)) := by
  refine ⟨take_after before, take_after _, fun occurrence mem => ?_⟩
  have kept : occurrence ∈ undrained before := by
    rw [handed] at mem
    split at mem
    case isTrue => cases mem
    case isFalse => exact mem
  refine ⟨(undrained?_eq_some.1 (mem_undrained.1 kept)).1, ?_⟩
  rw [handed]
  -- What the second handler finds depends on what was done last before it.
  cases between using List.reverseRecOn with
  | nil => simp
  | append_singleton earlier operation =>
    have last : (before ++ .take :: (earlier ++ [operation])).getLast? = some operation := by
      rw [← List.cons_append, ← List.append_assoc, List.getLast?_concat]
    have standing := mem_undrained_append kept (.take :: (earlier ++ [operation]))
    rw [last]
    cases operation with
    | register reversal => simp [standing]
    | drain => simp [standing]
    | take => simp

/-- A reversal that is registered once is given to two handlers. -/
theorem handed_twice :
    let operations : List Operation := [.register .enableSmt, .take, .register .stopOptimizer]
    operations.count (.register .enableSmt) = 1 ∧
      .enableSmt ∈ (after [.register .enableSmt]).take.1 ∧
      .enableSmt ∈ (after operations).take.1 := by
  decide

end CgroupBench.Cleanup
