import CgroupBench.Proofs.Handover
import Mathlib.Data.List.DropRight

/-!
# The journal as a mirror

A run registers and drains, a handler takes, and both work on the same journal. However their
operations alternate, the pending list is what was registered since the last drain, as if no handler
had ever come. The journal is the pending list again after every registration and every drain, and
is empty as long as taking it was the last thing that happened.
-/
namespace CgroupBench.Cleanup

/-- What was registered since the last drain, oldest first. -/
def sinceDrain (operations : List Operation) : List Reversal :=
  (operations.rtakeWhile (· ≠ .drain)).filterMap Operation.registered?

theorem sinceDrain_concat (operations : List Operation) (operation : Operation) :
    sinceDrain (operations ++ [operation]) =
      match operation with
      | .register reversal => sinceDrain operations ++ [reversal]
      | .drain => []
      | .take => sinceDrain operations := by
  rw [sinceDrain, List.rtakeWhile_concat]
  cases operation <;> simp [sinceDrain, Operation.registered?]

theorem map_undrained (operations : List Operation) :
    (undrained operations).map Prod.snd = sinceDrain operations := by
  induction operations using List.reverseRecOn with
  | nil => rfl
  | append_singleton operations operation ih =>
    rw [undrained_concat, sinceDrain_concat]
    cases operation with
    | register reversal => rw [List.map_append, ih]; rfl
    | drain => rfl
    | take => exact ih

theorem pending_eq_sinceDrain (operations : List Operation) :
    (after operations).pending = sinceDrain operations :=
  (pending_after operations).trans (map_undrained operations)

theorem journal_after (operations : List Operation) :
    (after operations).journal =
      if operations.getLast? = some .take then [] else (after operations).pending := by
  show (after operations).take.1 = _
  rw [take_after, handed, pending_after]
  split <;> rfl

/-- What is pending does not tell that a handler took the journal, whatever is done after that. -/
theorem sinceDrain_take (before later : List Operation) :
    sinceDrain (before ++ .take :: later) = sinceDrain (before ++ later) := by
  induction later using List.reverseRecOn with
  | nil => rw [sinceDrain_concat, List.append_nil]
  | append_singleton later operation ih =>
    rw [← List.cons_append, ← List.append_assoc, ← List.append_assoc, sinceDrain_concat,
      sinceDrain_concat, ih]

/-- The pending list is what was registered since the last drain, and a drain gives it newest
first. The journal is its mirror until it is taken, which changes nothing about the pending list,
neither then nor later. -/
theorem pending_mirrored (operations : List Operation) :
    let cleanup := after operations
    cleanup.pending = sinceDrain operations ∧
      cleanup.drain.1 = (sinceDrain operations).reverse ∧
      cleanup.journal = (if operations.getLast? = some .take then [] else cleanup.pending) ∧
      ∀ later : List Operation,
        (after (operations ++ .take :: later)).pending = (after (operations ++ later)).pending := by
  refine ⟨pending_eq_sinceDrain operations,
    congrArg List.reverse (pending_eq_sinceDrain operations), journal_after operations, ?_⟩
  intro later
  rw [pending_eq_sinceDrain, pending_eq_sinceDrain, sinceDrain_take]

end CgroupBench.Cleanup
