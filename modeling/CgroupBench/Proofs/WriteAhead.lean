import CgroupBench.Proofs.Restoration
import CgroupBench.Proofs.Unwinding

/-!
# The journal is written ahead

Cut a series at any point of a run that has not begun to unwind. A handler that replays the
journal of that point, on a machine it never probed, brings the host back to where the series
began. It needs a host that lets reversals do their work; what failed before the cut does
not matter. SMT that was not on is never written to, neither before the cut nor after it.
-/
namespace CgroupBench

def Event.writesTo (path : String) : Event → Prop
  | .called (.write other _) _ => other = path
  | _ => False

namespace Standing

theorem enter_touched {site : Site} {standing : Standing} {event : Event} :
    (standing.enter site event).touched = true ↔
      standing.touched = true ∨ event.writesTo site.smtControl := by
  rcases event with ⟨call, reply⟩ | note
  · cases call <;> simp [enter, Event.writesTo]
  · simp [enter, Event.writesTo]

theorem foldl_touched {site : Site} (standing : Standing) {history : List Event} :
    (history.foldl (enter site) standing).touched = true ↔
      standing.touched = true ∨ ∃ event ∈ history, event.writesTo site.smtControl := by
  induction history generalizing standing with
  | nil => simp
  | cons event rest ih =>
    rw [List.foldl_cons, ih, enter_touched, or_assoc]
    simp

end Standing

section

variable {σ τ : Type} {site : Site} {host : Host σ} {see : σ → Footprint}
  {standing : Standing} {state : σ}

/-! On an unhindered host no reversal ends in a fault. -/

theorem Unhindered.excused (unhindered : Unhindered site host see) (reversal : Reversal) :
    host.Obeys see (reversal.call site)
      fun _ reply _ => ∀ cause, reply = .error cause → reversal.excuses cause = true := by
  cases reversal with
  | enableSmt => exact fun state cause failed => absurd failed (unhindered.writes _ state cause)
  | deleteCgroup variant => exact unhindered.deletes variant
  | stopOptimizer => exact unhindered.stops

theorem unhindered_unwinding (unhindered : Unhindered site host see) :
    Unwinding site (Standing.watch site host fun _ _ => True)
      (fun faults _ machine _ _ => faults = [] ∧ machine.smtControl = site.smtControl) where
  control h := h.2
  call {_ _ machine _ _} reversal _ h := by
    refine ⟨trivial, ensures_call (unhindered.excused reversal) fun reply _ law => ⟨trivial, ?_⟩⟩
    have settled : (reversal.settle machine).smtControl = site.smtControl :=
      (reversal.smtControl_settle machine).trans h.2
    cases reply with
    | ok _ => exact ⟨h.1, settled⟩
    | error cause =>
      refine ⟨fun _ => ⟨h.1, settled⟩, fun failed => ?_⟩
      rw [law cause rfl] at failed
      cases failed
  settled _ h := ⟨trivial, h⟩

theorem ensures_replay_ok (unhindered : Unhindered site host see) (standing : Standing)
    (journal : List Reversal) :
    (Standing.watch site host fun _ _ => True).Ensures
      (replay site.tools journal (.owing site.smtControl)) standing state
      fun out _ _ => out.1 = .ok () := by
  refine ((unhindered_unwinding unhindered).performAll journal.reverse ⟨rfl, rfl⟩).andThen ?_
  rintro ⟨faults, machine⟩ standing state ⟨none, -⟩
  obtain rfl : faults = [] := none
  rfl

/-- A replay of reversals that cover the host restores it. -/
theorem replay_covered (unhindered : Unhindered site host see) (apart : site.controls.Nodup)
    {start : Footprint} {journal : List Reversal} (covers : Covers journal start (see state)) :
    let replayed := (replay site.tools journal (.owing site.smtControl)).execute host state
    replayed.value.1 = .ok () ∧ Footprint.Restored start (see replayed.host) ∧
      (start.reading ≠ some .on →
        ∀ event ∈ replayed.history, ¬ event.writesTo site.smtControl) := by
  intro replayed
  have ok : replayed.value.1 = .ok () := (ensures_replay_ok unhindered {} journal).finished
  have calm : ∀ (standing : Standing) (_ : σ), standing.underway = false → True :=
    fun _ _ _ => trivial
  have control : (Machine.owing site.smtControl).smtControl = site.smtControl := rfl
  have idle : ({} : Standing).underway = false := rfl
  obtain ⟨faults, outcome, undone, unmoved⟩ :=
    (ensures_unwind unhindered.toFaithful apart calm state control idle journal.reverse).finished
  obtain rfl := verdict_ok (outcome.symm.trans ok)
  have owes : (Machine.owing site.smtControl).smtDisabled = true := rfl
  have restored := covers.undone (fun _ => List.mem_reverse)
    (fun settled => absurd (owes.symm.trans settled) nofun) undone
  refine ⟨ok, restored, ?_⟩
  intro off event mem writes
  have touched := (Standing.foldl_touched {}).mpr (.inr ⟨event, mem, writes⟩)
  rcases unmoved.touched touched with untouched | ⟨listed, -⟩
  · cases untouched
  · exact off (covers.wasOn (List.mem_reverse.mp listed))

/-- Cut anywhere, the journal covers the host, as long as the run there has not begun to
unwind. -/
theorem series_covered (faithful : Faithful site host see) (apart : site.controls.Nodup)
    (clean : (see state).Clean) (policy : FailurePolicy) (workload : Workload)
    (records : List Record) (measurements : List Measurement) {before after : List Event}
    (cut : ((site.series policy workload records measurements).execute host state).history =
      before ++ after) :
    (Standing.after site before).Covered (see state) (see (host.follow state before)) := by
  have series := ensures_series faithful apart policy workload records measurements clean
  rcases List.eq_nil_or_concat before with rfl | ⟨earlier, last, rfl⟩
  · exact .of_idle rfl
  · rw [List.concat_eq_append] at cut ⊢
    rw [Standing.after, List.foldl_append]
    exact series.reached (cut.trans (List.append_assoc earlier [last] after))

/-- At every point of every run before its unwinding, whatever failed so far, replaying the
journal brings back what was at the start of the series. -/
theorem replay_restores {rescue : Host τ} {see' : τ → Footprint} (faithful : Faithful site host see)
    (apart : site.controls.Nodup) (state : σ) (clean : (see state).Clean) (policy : FailurePolicy)
    (workload : Workload) (records : List Record) (measurements : List Measurement)
    {before after : List Event}
    (cut : ((site.series policy workload records measurements).execute host state).history =
      before ++ after)
    (underway : (Standing.after site before).underway = true)
    (unhindered : Unhindered site rescue see') (left : τ)
    (same : see' left = see (host.follow state before)) :
    let journal := (Standing.after site before).cleanup.journal
    let replayed := (replay site.tools journal (.owing site.smtControl)).execute rescue left
    replayed.value.1 = .ok () ∧ Footprint.Restored (see state) (see' replayed.host) ∧
      ((see state).reading ≠ some .on →
        ∀ event ∈ before ++ replayed.history, ¬ event.writesTo site.smtControl) := by
  obtain ⟨covers, wasOn⟩ :=
    series_covered faithful apart clean policy workload records measurements cut underway
  rw [← same] at covers
  obtain ⟨ok, restored, quiet⟩ := replay_covered unhindered apart covers
  refine ⟨ok, restored, fun off event mem writes => ?_⟩
  rcases List.mem_append.mp mem with mem | mem
  · exact off (wasOn ((Standing.foldl_touched {}).mpr (.inr ⟨event, mem, writes⟩)))
  · exact quiet off event mem writes

end

/-- A schedule under which nothing is forced to fail. -/
def Sample.rescue : Schedule Sample.site := {}

/-- The baseline run of the sample is cut right after SMT was switched off. -/
theorem replay_restores_after_smt_off :
    let before := Sample.series.history.take 33
    let left := Sample.schedule.host.follow (0, Sample.start) before
    let journal := (Standing.after Sample.site before).cleanup.journal
    let replayed := (replay Sample.site.tools journal (.owing Sample.site.smtControl)).execute
      Sample.rescue.host left
    journal = [.deleteCgroup .baseline, .enableSmt] ∧ left.2.smt = some "off\n" ∧
      replayed.value.1 = .ok () ∧ Footprint.Restored Sample.start replayed.host.2 := by
  intro before left journal replayed
  have cut : Sample.series.history = before ++ Sample.series.history.drop 33 :=
    (List.take_append_drop 33 _).symm
  have unhindered : Unhindered Sample.site Sample.rescue.host Prod.snd :=
    Schedule.unhindered fun _ _ => rfl
  have restored := replay_restores Sample.schedule.faithful (by decide) (0, Sample.start)
    Sample.start_clean .goOn Sample.workload [Sample.record .damon, Sample.record .baseline] []
    cut (by decide +kernel) unhindered left rfl
  exact ⟨by decide +kernel, by decide +kernel, restored.1, restored.2.1⟩

end CgroupBench
