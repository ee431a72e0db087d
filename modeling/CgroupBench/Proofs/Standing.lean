import CgroupBench.Proofs.FaithfulHost
import CgroupBench.Proofs.Watch

/-!
# Where a series stands

The account that the theorems on restoration keep: the pending reversals with their journal,
whether a run is under way that has not begun to unwind, and whether the SMT control has been
written. Then one rule for each thing that the lifecycle does to a faithful host: it leads
where its outcomes lead, and the outcomes are told by the footprint alone.
-/
namespace CgroupBench

structure Standing where
  cleanup : Cleanup := {}
  underway : Bool := false
  touched : Bool := false

namespace Standing

/-- A run begins by being idle. -/
def underwayAfter (underway : Bool) : Note → Bool
  | .entered .idle => true
  | .drained => false
  | _ => underway

theorem underwayAfter_eq_false {underway : Bool} {note : Note} (rest : note ≠ .entered .idle)
    (idle : underway = false) : underwayAfter underway note = false := by
  cases note with
  | entered stage =>
    cases stage with
    | idle => exact absurd rfl rest
    | _ => exact idle
  | drained => rfl
  | _ => exact idle

def enter (site : Site) (standing : Standing) : Event → Standing
  | .noted note =>
    { standing with
      cleanup := note.apply standing.cleanup
      underway := underwayAfter standing.underway note }
  | .called (.write path _) _ =>
    { standing with touched := standing.touched || path == site.smtControl }
  | .called _ _ => standing

/-- Where a series stands after a history that began with nothing pending. -/
def after (site : Site) (history : List Event) : Standing :=
  history.foldl (enter site) {}

def watch {σ : Type} (site : Site) (host : Host σ) (point : Standing → σ → Prop) :
    Watch σ Standing :=
  ⟨host, enter site, fun standing event state => point (standing.enter site event) state⟩

theorem enter_write_apart {site : Site} {path text : String}
    {reply : (Call.write path text).Reply} (standing : Standing) (apart : path ≠ site.smtControl) :
    standing.enter site (.called (.write path text) reply) = standing := by
  have differs : (path == site.smtControl) = false := beq_false_of_ne apart
  simp only [enter, differs, Bool.or_false]

end Standing

section

variable {σ α : Type} {site : Site} {host : Host σ} {see : σ → Footprint}
  {point : Standing → σ → Prop} {standing : Standing} {state : σ}

/-- A call leads where its law allows. -/
theorem ensures_call {call : Call} {law : Footprint → call.Reply → Footprint → Prop}
    {post : call.Reply → Standing → σ → Prop} (obeys : host.Obeys see call law)
    (h : ∀ reply state', law (see state) reply (see state') →
      point (standing.enter site (.called call reply)) state' ∧
        post reply (standing.enter site (.called call reply)) state') :
    (Standing.watch site host point).Ensures (.ask call .finish) standing state post :=
  .obey obeys h

theorem ensures_delete (faithful : Faithful site host see) {variant : Variant}
    {post : Except CallError Unit → Standing → σ → Prop}
    (gone : ∀ state', see state' = (see state).put variant none →
      point standing state' ∧ post (.ok ()) standing state')
    (failed : ∀ cause state', see state' = see state →
      point standing state' ∧ post (.error cause) standing state') :
    (Standing.watch site host point).Ensures (Cgroups.delete variant) standing state post := by
  refine Watch.Ensures.bind (ensures_call (faithful.delete variant) ?_)
  rintro (cause | output) state' law
  · obtain ⟨same, absent⟩ := law
    rw [Cgroups.tolerateAbsent_error]
    by_cases absence : cause.saysAbsent = true
    · rw [if_pos absence]
      refine gone _ (same.trans ?_)
      simp [Footprint.put, ← absent absence]
    · rw [if_neg absence]
      exact failed _ _ same
  · exact gone _ law

theorem ensures_detach (faithful : Faithful site host see)
    {post : Except CallError Unit → Standing → σ → Prop}
    (stopped : ∀ state', see state' = { see state with optimizer := false } →
      point standing state' ∧ post (.ok ()) standing state')
    (failed : ∀ cause state', see state' = see state →
      point standing state' ∧ post (.error cause) standing state') :
    (Standing.watch site host point).Ensures site.tools.optimizer.detach standing state post := by
  refine Watch.Ensures.bind (ensures_call faithful.stop ?_)
  rintro (cause | output) state' law
  · obtain ⟨same, idle⟩ := law
    rw [Optimizer.tolerateStopped_error]
    by_cases exited : cause.isExit = true
    · rw [if_pos exited]
      refine stopped _ (same.trans ?_)
      rw [← idle exited]
    · rw [if_neg exited]
      exact failed _ _ same
  · exact stopped _ law

end
end CgroupBench
