import CgroupBench.Proofs.Conservation
import CgroupBench.Proofs.WriteAhead

/-!
# The journal while a run unwinds

Draining empties the pending list and the journal with it, before the first reversal is
begun. A handler that comes while a run unwinds therefore finds nothing to replay, and what
the run had not got to yet is left to nobody. The journal covers what is outstanding only
when nothing is.
-/
namespace CgroupBench

/-- A list that reaches beyond a mark, cut at the mark. -/
theorem split_at_mark {α : Type} {front back head rest : List α} {mark : α}
    (same : front ++ back = head ++ mark :: rest) (beyond : mark ∈ front) (first : mark ∉ head) :
    ∃ middle, front = head ++ mark :: middle ∧ rest = middle ++ back := by
  rcases split_append same with within | ⟨middle, rfl, -⟩
  · exact within
  · exact absurd (List.mem_append_left middle beyond) first

theorem mem_books {note : Note} (entry : note.isEntry = true) {history : List Event}
    (mem : .noted note ∈ history) : note ∈ books history := by
  refine List.mem_filterMap.mpr ⟨_, mem, ?_⟩
  rw [Event.asEntry, if_pos entry]

theorem books_append (before after : List Event) :
    books (before ++ after) = books before ++ books after :=
  List.filterMap_append

/-- The pending list and the journal can be read off the books. -/
theorem cleanup_books (cleanup : Cleanup) (history : List Event) :
    Event.cleanup cleanup history = (books history).foldl Note.apply cleanup := by
  induction history generalizing cleanup with
  | nil => rfl
  | cons event rest ih =>
    rcases event with ⟨call, reply⟩ | note
    · exact ih cleanup
    · show Event.cleanup (note.apply cleanup) rest = _
      rw [ih]
      cases note <;> rfl

theorem cleanup_reversing (cleanup : Cleanup) (done : List Reversal) :
    (done.map Note.reversing).foldl Note.apply cleanup = cleanup := by
  induction done with
  | nil => rfl
  | cons reversal rest ih => exact ih

/-- A front of a round that reaches beyond the drain has some of the reversals, newest first. -/
theorem round_cut {front back : List Note} {registered : List Reversal}
    (same : front ++ back = round registered) (drained : .drained ∈ front) :
    ∃ done outstanding : List Reversal,
      front = registered.map .registered ++ .drained :: done.map .reversing ∧
        registered.reverse = done ++ outstanding := by
  have unmarked : Note.drained ∉ registered.map .registered := by simp
  obtain ⟨middle, front, rest⟩ := split_at_mark same drained unmarked
  obtain ⟨done, outstanding, reverse, rfl, -⟩ := List.map_eq_append_iff.mp rest
  exact ⟨done, outstanding, front, reverse⟩

/-- Whatever was registered before, the drain is among the entries that follow. -/
theorem drain_follows {pending registered : List Reversal} {entries rest : List Note}
    (same : pending.map .registered ++ entries = registered.map .registered ++ .drained :: rest) :
    ∃ earlier, entries = earlier ++ .drained :: rest := by
  rcases split_append same with ⟨middle, split, -⟩ | ⟨earlier, -, split⟩
  · have mem : .drained ∈ pending.map Note.registered := by
      rw [split]
      exact List.mem_append_right _ (.head _)
    simp at mem
  · exact ⟨earlier, split⟩

/-- From the drain on there is nothing to be found until something is registered. -/
theorem cleanup_drained (cleanup : Cleanup) {history : List Event} {earlier : List Note}
    {done : List Reversal} (split : books history = earlier ++ .drained :: done.map .reversing) :
    Event.cleanup cleanup history = {} := by
  rw [cleanup_books, split, List.foldl_append, List.foldl_cons, cleanup_reversing]
  rfl

/-- At each point of a run after its drain, the journal is empty, so that it has all of what
is outstanding only if nothing is outstanding, and a replay of it makes no call. -/
theorem journal_empty_while_unwinding {σ : Type} (host : Host σ) (state : σ) (runner : Runner)
    (workload : Workload) (record : Record) {before after : List Event}
    (cut : ((Runner.run workload record runner).execute host state).history = before ++ after)
    (unwinding : .noted .drained ∈ before) :
    let journal := (Event.cleanup runner.cleanup before).journal
    ∃ registered done outstanding : List Reversal,
      runner.cleanup.pending.map .registered ++ books before =
        registered.map .registered ++ .drained :: done.map .reversing ∧
      registered.reverse = done ++ outstanding ∧
      journal = [] ∧
      ((∀ reversal ∈ outstanding, reversal ∈ journal) ↔ outstanding = []) ∧
      ∀ machine, replay runner.tools journal machine = pure (.ok (), machine) := by
  intro journal
  have drained : .drained ∈ runner.cleanup.pending.map .registered ++ books before :=
    List.mem_append_right _ (mem_books rfl unwinding)
  rcases run_squared host state runner workload record with
    ⟨-, registered, broken⟩ | ⟨⟨registered, whole⟩, -⟩
  · rw [cut, books_append, ← List.append_assoc] at broken
    have mem : .drained ∈ registered.map Note.registered := by
      rw [← broken]
      exact List.mem_append_left _ drained
    simp at mem
  · rw [cut, books_append, ← List.append_assoc] at whole
    obtain ⟨done, outstanding, front, reverse⟩ := round_cut whole drained
    obtain ⟨earlier, split⟩ := drain_follows front
    have empty : journal = [] := congrArg Cleanup.journal (cleanup_drained _ split)
    refine ⟨registered, done, outstanding, front, reverse, empty, ?_, ?_⟩
    · rw [empty]
      constructor
      · intro listed
        exact List.eq_nil_iff_forall_not_mem.mpr fun reversal mem =>
          List.not_mem_nil (listed reversal mem)
      · rintro rfl
        simp
    · intro machine
      rw [empty]
      rfl

/-- An optimized run on which nothing fails. Its history is cut at the call that stops the
optimizer, when the cgroup is still there. -/
def Sample.unwinding : Execution (Nat × Footprint) (RunEnd × Runner) :=
  (Runner.run workload (record .damon) (site.fresh .abort .on)).execute rescue.host (0, start)

theorem journal_empty_at_stop :
    let before := Sample.unwinding.history.take 23
    .noted .drained ∈ before ∧ (Event.cleanup {} before).journal = [] := by
  intro before
  have unwinding : .noted .drained ∈ before := List.mem_iff_getElem?.mpr ⟨19, rfl⟩
  obtain ⟨_, _, _, _, _, empty, _⟩ := journal_empty_while_unwinding Sample.rescue.host
    (0, Sample.start) (Sample.site.fresh .abort .on) Sample.workload (Sample.record .damon)
    (List.take_append_drop 23 Sample.unwinding.history).symm unwinding
  exact ⟨unwinding, empty⟩

/-- The deletion of the cgroup is registered and not begun, and the journal does not have it. -/
theorem journal_misses_deletion_at_stop :
    let before := Sample.unwinding.history.take 23
    (∃ reply after, Sample.unwinding.history =
      before ++ .called (.run Sample.site.tools.optimizer.stopArgv) reply :: after) ∧
    .registered (.deleteCgroup .damon) ∈ books before ∧
    .reversing (.deleteCgroup .damon) ∉ books before ∧
    .deleteCgroup .damon ∉ (Event.cleanup {} before).journal := by
  refine ⟨⟨_, _, (List.take_append_drop 23 _).symm.trans (congrArg _ rfl)⟩, ?_⟩
  decide +kernel

end CgroupBench
