import CgroupBench.Proofs.Delivery
import CgroupBench.Proofs.Ending
import CgroupBench.Proofs.FaultyHost

/-!
# The stages of a run

The stages that a run enters tell how it went. Only the run itself enters stages, between its
preparation, its launch and its unwinding: neither of the first and the last enters any, and
neither launches anything. So there are a few words that the stages can spell, and each of them
belongs to one way of the launch, of the result hook and of the unwinding. Nothing is asked of
the runner before, whose pending reversals an unwinding carries out as well.
-/
namespace CgroupBench

variable {σ κ ρ α β : Type}

/-- The replies to the launches of a history, in order. -/
def Event.launches : List Event → List (Except CallError Timed)
  | [] => []
  | .called (.workload _ _) reply :: rest => reply :: launches rest
  | _ :: rest => launches rest

theorem Event.mem_launches {history : List Event} {reply : Except CallError Timed} :
    reply ∈ launches history ↔
      ∃ scope invocation, .called (.workload scope invocation) reply ∈ history := by
  induction history with
  | nil => simp [launches]
  | cons event rest ih =>
    match event with
    | .noted note | .called (.run _) _ | .called (.write _ _) _ | .called (.read _) _ =>
      simp [launches, ih]
    | .called (.workload scope invocation) answer =>
      simp only [launches, List.mem_cons, ih, Event.called.injEq, Call.workload.injEq]
      constructor
      · rintro (rfl | ⟨scope', invocation', mem⟩)
        · exact ⟨scope, invocation, .inl ⟨⟨rfl, rfl⟩, .rfl⟩⟩
        · exact ⟨scope', invocation', .inr mem⟩
      · rintro ⟨scope', invocation', ⟨⟨rfl, rfl⟩, same⟩ | mem⟩
        · exact .inl (eq_of_heq same)
        · exact .inr ⟨scope', invocation', mem⟩

namespace Watch

/-- A watch that keeps the replies to launches. -/
def launching (host : Host σ) : Watch σ (List (Except CallError Timed)) :=
  ⟨host, fun replies event => replies ++ Event.launches [event], fun _ _ _ => True⟩

theorem foldl_launching (host : Host σ) (replies : List (Except CallError Timed))
    (history : List Event) :
    history.foldl (launching host).enter replies = replies ++ Event.launches history := by
  induction history generalizing replies with
  | nil => simp [Event.launches]
  | cons event rest ih =>
    rw [List.foldl_cons, ih, launching, List.append_assoc]
    match event with
    | .noted _ | .called (.run _) _ | .called (.write _ _) _ | .called (.read _) _
    | .called (.workload _ _) _ => rfl

/-- Where the condition holds, it still holds after the procedure. -/
def Quiet (watch : Watch σ κ) (inv : κ → σ → Prop) (procedure : Procedure α) : Prop :=
  ∀ account state, inv account state → watch.Ensures procedure account state fun _ => inv

namespace Quiet

variable {watch : Watch σ κ} {inv : κ → σ → Prop}

theorem pure (value : α) : watch.Quiet inv (pure value : Procedure α) :=
  fun _ _ h => h

theorem bind {first : Procedure α} {next : α → Procedure β} (head : watch.Quiet inv first)
    (rest : ∀ value, watch.Quiet inv (next value)) : watch.Quiet inv (first >>= next) :=
  fun account state h => (head account state h).andThen fun value _ _ h => rest value _ _ h

theorem step {first : Step ρ α} {next : α → Step ρ β} {start : ρ}
    (head : watch.Quiet inv (first start))
    (rest : ∀ value part, watch.Quiet inv (next value part)) :
    watch.Quiet inv ((first >>= next) start) := by
  apply head.bind
  rintro ⟨fault | value, part⟩
  · exact pure _
  · exact rest value part

theorem lift {wrap : CallError → Fault} {procedure : Procedure (Except CallError α)} {start : ρ}
    (quiet : watch.Quiet inv procedure) : watch.Quiet inv (Step.lift wrap procedure start) := by
  apply quiet.bind
  rintro (cause | value) <;> exact pure _

theorem attempt {call : Procedure (Except CallError α)} (quiet : watch.Quiet inv call)
    (retries : Nat) : watch.Quiet inv (Cgroups.attempt call retries) := by
  induction retries with
  | zero => exact quiet
  | succ retries ih =>
    apply quiet.bind
    rintro (cause | value)
    · show watch.Quiet inv (if cause.isUnlaunchable then _ else _)
      split
      · exact pure _
      · exact ih
    · exact pure _

end Quiet

/-- A condition that only a launch and the entering of a stage can change. -/
structure Still (watch : Watch σ κ) (inv : κ → σ → Prop) : Prop where
  call {call : Call} : (∀ scope invocation, call ≠ .workload scope invocation) →
    watch.Quiet inv (.ask call .finish)
  note {note : Note} : (∀ stage, note ≠ .entered stage) → watch.Quiet inv (Procedure.leave note)

namespace Still

variable {watch : Watch σ κ} {inv : κ → σ → Prop} (still : Still watch inv)
include still

theorem run (argv : List String) : watch.Quiet inv (Procedure.run argv) :=
  still.call nofun

theorem write (path contents : String) : watch.Quiet inv (Procedure.write path contents) :=
  still.call nofun

theorem delete (variant : Variant) : watch.Quiet inv (Cgroups.delete variant) :=
  (still.run _).bind fun _ => .pure _

theorem detach (optimizer : Optimizer) : watch.Quiet inv optimizer.detach :=
  (still.run _).bind fun _ => .pure _

theorem attach (optimizer : Optimizer) (boundary : Boundary) :
    watch.Quiet inv (optimizer.attach boundary) := by
  unfold Optimizer.attach
  cases optimizer.descriptor with
  | none => exact .pure _
  | some descriptor =>
    exact .step (.pure _) fun _ _ => .step (.lift (still.run _)) fun _ _ => .pure _

theorem dropPageCache (machine : Machine) : watch.Quiet inv machine.dropPageCache := by
  refine .step (.lift (still.run _)) fun _ machine => .step (.pure _) fun _ _ => ?_
  exact .step (.lift (still.write _ _)) fun _ _ => .pure _

theorem disableSwap (machine : Machine) : watch.Quiet inv machine.disableSwap :=
  .step (.lift (still.run _)) fun _ _ => .pure _

theorem disableSmt (machine : Machine) : watch.Quiet inv machine.disableSmt := by
  show watch.Quiet inv ((if machine.smtAtStart ≠ .on then _ else if machine.smtDisabled then _
    else _ : Step Machine Bool) machine)
  split
  · exact .pure _
  · split
    · exact .pure _
    · exact .step (.lift (still.write _ _)) fun _ _ => .pure _

theorem perform (tools : Tools) (reversal : Reversal) (machine : Machine) :
    watch.Quiet inv (reversal.perform tools machine) := by
  cases reversal with
  | enableSmt =>
    show watch.Quiet inv ((if machine.smtDisabled then _ else _ : Step Machine Unit) machine)
    split
    · exact .step (.lift (still.write _ _)) fun _ _ => .pure _
    · exact .pure _
  | deleteCgroup variant => exact .lift (still.delete variant)
  | stopOptimizer => exact .lift (still.detach _)

theorem performAll (tools : Tools) (reversals : List Reversal) (machine : Machine) :
    watch.Quiet inv (Reversal.performAll tools reversals machine) := by
  induction reversals generalizing machine with
  | nil => exact .pure _
  | cons reversal rest ih =>
    have noted : watch.Quiet inv (Procedure.leave (.reversing reversal)) := still.note nofun
    refine noted.bind fun _ => ?_
    refine (still.perform tools reversal machine).bind fun carriedOut => ?_
    refine (ih carriedOut.2).bind fun _ => ?_
    cases carriedOut.1 <;> exact .pure _

end Still
end Watch

namespace Runner

/-- The runner stands where it stood. -/
structure Stands (before after : Runner) : Prop where
  stage : after.stage = before.stage
  stages : after.stages = before.stages

theorem Stands.refl (runner : Runner) : runner.Stands runner :=
  ⟨rfl, rfl⟩

theorem Stands.trans {first second third : Runner} (head : first.Stands second)
    (rest : second.Stands third) : first.Stands third :=
  ⟨rest.stage.trans head.stage, rest.stages.trans head.stages⟩

end Runner

/-- The step leaves the runner where it stood, and what holds still holds after it. -/
def Watch.Keeps (watch : Watch σ κ) (inv : κ → σ → Prop) (step : Step Runner α) : Prop :=
  ∀ runner account state, inv account state →
    watch.Ensures (step runner) account state fun out account state =>
      runner.Stands out.2 ∧ inv account state

namespace Watch.Keeps

variable {watch : Watch σ κ} {inv : κ → σ → Prop}

theorem pure (result : Except Fault α) : watch.Keeps inv (Step.ofExcept result) :=
  fun runner _ _ h => ⟨.refl runner, h⟩

theorem bind {first : Step Runner α} {next : α → Step Runner β} (head : watch.Keeps inv first)
    (rest : ∀ value, watch.Keeps inv (next value)) : watch.Keeps inv (first >>= next) := by
  intro runner account state h
  apply (head runner account state h).andThen
  rintro ⟨fault | value, part⟩ account state ⟨stands, h⟩
  · exact ⟨stands, h⟩
  · exact (rest value part account state h).mono fun _ _ _ after => ⟨stands.trans after.1, after.2⟩

/-- It was enough to look at the runner first. -/
theorem get {next : Runner → Step Runner α} (rest : ∀ runner, watch.Keeps inv (next runner)) :
    watch.Keeps inv (Step.get >>= next) :=
  fun runner => rest runner runner

theorem lift {wrap : CallError → Fault} {procedure : Procedure (Except CallError α)}
    (quiet : watch.Quiet inv procedure) : watch.Keeps inv (Step.lift wrap procedure) := by
  intro runner account state h
  apply (quiet account state h).andThen
  rintro (cause | value) account state h <;> exact ⟨.refl runner, h⟩

/-- A procedure whose value is the only thing that is done with it. -/
theorem aside {procedure : Procedure α} {result : α → Except Fault β}
    (quiet : watch.Quiet inv procedure) :
    watch.Keeps inv (fun runner => do
      let value ← procedure
      return (result value, runner)) :=
  fun runner account state h =>
    (quiet account state h).andThen fun _ _ _ h => ⟨.refl runner, h⟩

theorem bestEffort {step : Step Runner α} (keeps : watch.Keeps inv step) :
    watch.Keeps inv (Step.bestEffort step) := by
  intro runner account state h
  apply (keeps runner account state h).andThen
  rintro ⟨fault | value, after⟩ account state h <;> exact h

theorem onMachine {step : Step Machine α} (quiet : ∀ machine, watch.Quiet inv (step machine)) :
    watch.Keeps inv (Runner.onMachine step) := by
  intro runner account state h
  exact (quiet runner.machine account state h).andThen fun _ _ _ h => ⟨⟨rfl, rfl⟩, h⟩

end Watch.Keeps

namespace Watch.Still

variable {watch : Watch σ κ} {inv : κ → σ → Prop} (still : Still watch inv)
include still

theorem register (reversal : Reversal) : watch.Keeps inv (Runner.register reversal) := by
  intro runner account state h
  have noted : watch.Quiet inv (Procedure.leave (.registered reversal)) := still.note nofun
  obtain ⟨seen, h⟩ := noted account state h
  exact ⟨seen, ⟨rfl, rfl⟩, h⟩

theorem occupy (boundary : Option Boundary) : watch.Keeps inv (Runner.occupy boundary) := by
  intro runner account state h
  have noted : watch.Quiet inv (Procedure.leave (.occupied boundary)) := still.note nofun
  obtain ⟨seen, h⟩ := noted account state h
  exact ⟨seen, ⟨rfl, rfl⟩, h⟩

theorem create (cgroups : Cgroups) (variant : Variant) (memoryLimit : UInt64) :
    watch.Keeps inv (cgroups.create variant memoryLimit) := by
  refine .bind (.lift (still.delete variant)) fun _ => ?_
  refine .bind (.lift (.attempt (still.run _) _)) fun _ => ?_
  exact .bind (.lift (.attempt (still.write _ _) _)) fun _ => .pure _

theorem setUp (target : Target) : watch.Keeps inv (Runner.setUp target) := by
  refine .get fun runner => .bind (still.register _) fun _ => ?_
  refine .bind (still.create _ _ _) fun boundary => ?_
  split
  · refine .bind (still.register _) fun _ => ?_
    refine .bind (.aside (still.attach _ boundary)) fun attached => ?_
    exact .bind (still.occupy _) fun _ => .pure _
  · exact still.occupy _

theorem quiesce : watch.Keeps inv Runner.quiesce := by
  refine .get fun runner => ?_
  dsimp only
  split
  · exact .bind (still.register _) fun _ => .bestEffort (.onMachine still.disableSmt)
  · exact .pure _

theorem makeReady (target : Target) : watch.Keeps inv (Runner.makeReady target) := by
  refine .bind (.bestEffort (.onMachine still.dropPageCache)) fun _ => ?_
  refine .bind (.bestEffort (.onMachine still.disableSwap)) fun _ => .get fun runner => ?_
  have rest : watch.Keeps inv (Runner.setUp target >>= fun _ => Runner.quiesce) :=
    .bind (still.setUp target) fun _ => still.quiesce
  dsimp only
  split
  · exact .bind (.lift (still.detach _)) fun _ => rest
  · exact rest

/-- A preparation that goes on to the launch leaves the runner where it stood, and so does one
that a fault ends. -/
theorem prepare (workload : Workload) (record : Record) :
    watch.Keeps inv (Runner.prepare workload record) := by
  refine .bind (.pure _) fun target => ?_
  cases workload.command record with
  | panicked => exact .pure _
  | error fault => exact .pure _
  | ok invocation => exact .bind (still.makeReady target) fun _ => .pure _

theorem tearDown : watch.Keeps inv Runner.tearDown := by
  intro runner account state h
  have drained : watch.Quiet inv (Procedure.leave .drained) := still.note nofun
  have vacated : watch.Quiet inv (Procedure.leave (.occupied none)) := still.note nofun
  refine (drained account state h).andThen fun _ _ _ h => ?_
  refine ((still.performAll _ _ _).bind (fun _ => .pure _) _ _ h).andThen fun _ _ _ h => ?_
  exact (vacated _ _ h).andThen fun _ _ _ h => ⟨⟨rfl, rfl⟩, h⟩

end Watch.Still

/-- How far an attempt came: the replies to its launches, the stages it entered, and its result. -/
inductive Trail (workload : Workload) : List (Except CallError Timed) → List Stage →
    Except Fault (Option Measurement) → Prop where
  | unready {fault : Fault} : Trail workload [] [.idle, .preparing] (.error fault)
  | unlaunched {cause : CallError} {fault : Fault} :
    Trail workload [.error cause] [.idle, .preparing, .running] (.error fault)
  | unmeasured {timed : Timed} {fault : Fault} :
    workload.inspect timed.output timed.elapsed = .faulty fault →
    Trail workload [.ok timed] [.idle, .preparing, .running, .capturing] (.error fault)
  | measured {timed : Timed} {metrics : Metrics} {measurement : Measurement} :
    workload.inspect timed.output timed.elapsed = .measured metrics →
    Trail workload [.ok timed] [.idle, .preparing, .running, .capturing] (.ok (some measurement))

/-- How far a run came, and how it ended. -/
inductive Trace (workload : Workload) : List (Except CallError Timed) → List Stage → RunEnd →
    Prop where
  | unready {ending : RunEnd} : ending.measurement? = none →
    Trace workload [] [.idle, .preparing, .aborted] ending
  | unlaunched {cause : CallError} {ending : RunEnd} : ending.measurement? = none →
    Trace workload [.error cause] [.idle, .preparing, .running, .aborted] ending
  | unmeasured {timed : Timed} {fault : Fault} {ending : RunEnd} :
    workload.inspect timed.output timed.elapsed = .faulty fault → ending.measurement? = none →
    Trace workload [.ok timed] [.idle, .preparing, .running, .capturing, .aborted] ending
  | unrestored {timed : Timed} {metrics : Metrics} {fault : Fault} {measurement : Measurement} :
    workload.inspect timed.output timed.elapsed = .measured metrics →
    Trace workload [.ok timed] [.idle, .preparing, .running, .capturing, .tearingDown, .aborted]
      (.fatal fault (some measurement))
  | completed {timed : Timed} {metrics : Metrics} {measurement : Measurement} :
    workload.inspect timed.output timed.elapsed = .measured metrics →
    Trace workload [.ok timed] [.idle, .preparing, .running, .capturing, .tearingDown, .done]
      (.completed measurement)

section

variable {workload : Workload} {record : Record} {runner : Runner} {state : σ}

theorem still_launching (host : Host σ) (replies : List (Except CallError Timed)) :
    Watch.Still (Watch.launching host) fun launched _ => launched = replies where
  call {call} other := by
    rintro _ state rfl
    refine ⟨trivial, ?_⟩
    cases call with
    | workload scope invocation => exact absurd rfl (other scope invocation)
    | _ => exact List.append_nil _
  note _ := by
    rintro _ state rfl
    exact ⟨trivial, List.append_nil _⟩

theorem enter_launching (host : Host σ) (stage : Stage) (replies : List (Except CallError Timed)) :
    (Watch.launching host).Ensures (Runner.enter stage runner) replies state fun out launched _ =>
      out = (.ok (), runner.into stage) ∧ launched = replies :=
  ⟨trivial, rfl, List.append_nil _⟩

theorem measure_trail (host : Host σ) {variant : Variant} {invocation : Invocation}
    (begun : runner.stages = [.idle, .preparing]) :
    (Watch.launching host).Ensures (Runner.measure workload record variant invocation runner) []
      state fun out replies _ => out.1 ≠ .ok none → Trail workload replies out.2.stages out.1 := by
  refine (enter_launching host .running []).andThen ?_
  rintro _ _ state ⟨rfl, rfl⟩
  have running : (runner.into .running).stages = [.idle, .preparing, .running] := by
    simp [Runner.into, begun]
  refine Watch.Ensures.bind (Watch.Ensures.bind (Watch.Ensures.ask ?_))
  intro reply state' _
  refine ⟨trivial, ?_⟩
  rcases reply with cause | timed
  · intro _
    show Trail workload [.error cause] (runner.into .running).stages _
    rw [running]
    exact .unlaunched
  refine (enter_launching host .capturing [.ok timed]).andThen ?_
  rintro _ _ state ⟨rfl, rfl⟩
  have capturing : ((runner.into .running).into .capturing).stages =
      [.idle, .preparing, .running, .capturing] := by
    simp [Runner.into, begun]
  refine ⟨trivial, ?_⟩
  cases seen : workload.inspect timed.output timed.elapsed with
  | measured metrics =>
    intro _
    show Trail workload [.ok timed] ((runner.into .running).into .capturing).stages _
    rw [capturing]
    exact .measured seen
  | faulty fault =>
    intro _
    show Trail workload [.ok timed] ((runner.into .running).into .capturing).stages _
    rw [capturing]
    exact .unmeasured seen
  | panicked => exact fun unbroken => absurd rfl unbroken

theorem attempt_trail (host : Host σ) :
    (Watch.launching host).Ensures (Runner.attempt workload record runner) [] state
      fun out replies _ => out.1 ≠ .ok none → Trail workload replies out.2.stages out.1 := by
  have begun : (Watch.launching host).Ensures (Runner.begin runner) [] state
      fun out replies _ => out.1 = .ok () ∧ out.2.stages = [.idle, .preparing] ∧ replies = [] :=
    ⟨trivial, trivial, rfl, rfl, rfl⟩
  refine begun.andThen ?_
  rintro ⟨_, begun⟩ _ state ⟨rfl, stages, rfl⟩
  refine ((still_launching host []).prepare workload record begun [] state rfl).andThen ?_
  rintro ⟨fault | prepared, ready⟩ _ state ⟨stands, rfl⟩
  · intro _
    show Trail workload [] ready.stages (.error fault)
    rw [stands.stages, stages]
    exact .unready
  · cases prepared with
    | none => exact fun unbroken => absurd rfl unbroken
    | some prepared => exact measure_trail host (stands.stages.trans stages)

theorem RunEnd.measurement?_ofPhases_error (fault : Fault) (unwound : Except Fault Unit) :
    (RunEnd.ofPhases (.error fault) unwound).measurement? = none := by
  cases left : (RunEnd.ofPhases (.error fault) unwound).measurement? with
  | none => rfl
  | some measurement => cases RunEnd.measurement?_ofPhases left

theorem Trail.rolledBack {replies : List (Except CallError Timed)} {stages : List Stage}
    {fault : Fault} (trail : Trail workload replies stages (.error fault))
    (unwound : Except Fault Unit) :
    Trace workload replies (stages ++ [.aborted]) (.ofPhases (.error fault) unwound) := by
  have none := RunEnd.measurement?_ofPhases_error fault unwound
  cases trail with
  | unready => exact .unready none
  | unlaunched => exact .unlaunched none
  | unmeasured seen => exact .unmeasured seen none

theorem Trail.concluded {replies : List (Except CallError Timed)} {stages : List Stage}
    {measurement : Measurement} (trail : Trail workload replies stages (.ok (some measurement)))
    (unwound : Except Fault Unit) :
    Trace workload replies (stages ++ [.tearingDown] ++ [Runner.lastStage unwound])
      (.ofPhases (.ok (some measurement)) unwound) := by
  cases trail with
  | measured seen =>
    cases unwound with
    | ok _ => exact .completed seen
    | error unrestored => exact .unrestored seen

/-- A run is its attempt, and an unwinding that enters one stage before it and perhaps one
after it. -/
theorem run_trace (host : Host σ) :
    (Watch.launching host).Ensures (Runner.run workload record runner) [] state
      fun out replies _ => out.1 ≠ .panicked →
        Trace workload replies out.2.stages out.1 ∧ out.2.stages.getLast? = some out.2.stage := by
  rw [Runner.run_eq]
  refine (attempt_trail host).andThen ?_
  rintro ⟨fault | _ | measurement, ready⟩ replies state trail
  · show (Watch.launching host).Ensures (Runner.rollBack fault ready) _ _ _
    have trail := trail nofun
    have entered : replies ++ Event.launches [.noted (.entered .aborted)] = replies :=
      List.append_nil _
    rw [Runner.rollBack_eq]
    refine ⟨trivial, ?_⟩
    refine ((still_launching host replies).tearDown _ _ _ entered).andThen ?_
    rintro ⟨unwound, after⟩ _ _ ⟨stands, rfl⟩ _
    have stages : after.stages = ready.stages ++ [.aborted] := stands.stages
    have stage : after.stage = .aborted := stands.stage
    dsimp only
    rw [stages, stage]
    exact ⟨trail.rolledBack unwound, List.getLast?_concat⟩
  · exact fun unbroken => absurd rfl unbroken
  · show (Watch.launching host).Ensures (Runner.conclude measurement ready) _ _ _
    have trail := trail nofun
    have entered : replies ++ Event.launches [.noted (.entered .tearingDown)] = replies :=
      List.append_nil _
    rw [Runner.conclude_eq]
    refine ⟨trivial, ?_⟩
    refine ((still_launching host replies).tearDown _ _ _ entered).andThen ?_
    rintro ⟨unwound, after⟩ launched _ ⟨stands, rfl⟩
    refine ⟨trivial, fun _ => ?_⟩
    have stages : after.stages = ready.stages ++ [.tearingDown] := stands.stages
    have left : launched ++ Event.launches [.noted (.entered (Runner.lastStage unwound))] =
        launched := List.append_nil _
    dsimp only [Runner.into, Watch.launching]
    rw [stages, left]
    exact ⟨trail.concluded unwound, List.getLast?_concat⟩

end

namespace Trace

variable {workload : Workload} {replies : List (Except CallError Timed)} {stages : List Stage}
  {ending : RunEnd} (trace : Trace workload replies stages ending)
include trace

/-- The words that the stages can spell. -/
theorem stages_mem : stages ∈ [[.idle, .preparing, .aborted],
    [.idle, .preparing, .running, .aborted],
    [.idle, .preparing, .running, .capturing, .aborted],
    [.idle, .preparing, .running, .capturing, .tearingDown, .done],
    [.idle, .preparing, .running, .capturing, .tearingDown, .aborted]] := by
  cases trace <;> decide

theorem length_le_one : replies.length ≤ 1 := by
  cases trace <;> simp

theorem running_iff : .running ∈ stages ↔ ∃ reply, reply ∈ replies := by
  cases trace <;> simp

theorem capturing_iff : .capturing ∈ stages ↔ ∃ timed, .ok timed ∈ replies := by
  cases trace <;> simp

theorem tearingDown_iff : .tearingDown ∈ stages ↔ ∃ timed metrics, .ok timed ∈ replies ∧
    workload.inspect timed.output timed.elapsed = .measured metrics := by
  cases trace with
  | unready | unlaunched => simp
  | unmeasured faulty => simp [faulty]
  | unrestored seen | completed seen => simp [seen]

theorem done_iff : .done ∈ stages ↔ ∃ measurement, ending = .completed measurement := by
  cases trace with
  | unready none | unlaunched none | unmeasured _ none =>
    constructor
    · intro done
      simp at done
    · rintro ⟨measurement, rfl⟩
      cases none
  | unrestored | completed => simp

/-- A measurement survives a fatal end exactly if it came to an unwinding that failed. -/
theorem survives_iff : (∃ fault measurement, ending = .fatal fault (some measurement)) ↔
    [.tearingDown, .aborted] <:+: stages := by
  cases trace with
  | unready none | unlaunched none | unmeasured _ none =>
    constructor
    · rintro ⟨fault, measurement, rfl⟩
      cases none
    · exact fun unwound => absurd unwound (by decide)
  | unrestored => exact ⟨fun _ => by decide, fun _ => ⟨_, _, rfl⟩⟩
  | completed =>
    constructor
    · rintro ⟨fault, measurement, same⟩
      cases same
    · exact fun unwound => absurd unwound (by decide)

end Trace

/-- The stages of a run that returns, what it launched, and how it ended tell the same story. -/
theorem stages_tell_the_run (host : Host σ) (workload : Workload) (record : Record)
    (runner : Runner) (state : σ)
    (returned : ((runner.run workload record).execute host state).value.1 ≠ .panicked) :
    let run := (runner.run workload record).execute host state
    let stages := run.value.2.stages
    let launched (reply : Except CallError Timed) : Prop :=
      ∃ scope invocation, .called (.workload scope invocation) reply ∈ run.history
    stages ∈ [[.idle, .preparing, .aborted],
        [.idle, .preparing, .running, .aborted],
        [.idle, .preparing, .running, .capturing, .aborted],
        [.idle, .preparing, .running, .capturing, .tearingDown, .done],
        [.idle, .preparing, .running, .capturing, .tearingDown, .aborted]] ∧
      stages.getLast? = some run.value.2.stage ∧
      (Event.launches run.history).length ≤ 1 ∧
      (.running ∈ stages ↔ ∃ reply, launched reply) ∧
      (.capturing ∈ stages ↔ ∃ timed, launched (.ok timed)) ∧
      (.tearingDown ∈ stages ↔ ∃ timed metrics, launched (.ok timed) ∧
        workload.inspect timed.output timed.elapsed = .measured metrics) ∧
      (.done ∈ stages ↔ ∃ measurement, run.value.1 = .completed measurement) ∧
      ((∃ fault measurement, run.value.1 = .fatal fault (some measurement)) ↔
        [.tearingDown, .aborted] <:+: stages) := by
  intro run stages launched
  obtain ⟨trace, last⟩ : Trace workload ([] ++ Event.launches run.history) stages run.value.1 ∧
      stages.getLast? = some run.value.2.stage := by
    have ensured := (run_trace host).finished returned
    rw [Watch.foldl_launching] at ensured
    exact ensured
  have made : ∀ reply, launched reply ↔ reply ∈ Event.launches run.history :=
    fun reply => Event.mem_launches.symm
  rw [List.nil_append] at trace
  simp only [made]
  exact ⟨trace.stages_mem, last, trace.length_le_one, trace.running_iff, trace.capturing_iff,
    trace.tearingDown_iff, trace.done_iff, trace.survives_iff⟩

namespace Sample

/-- A host that does everything but delete one of the cgroups. -/
def stuck : Host Unit where
  answer _ call :=
    let reply : call.Reply := match call with
      | .run argv =>
        if argv = Cgroups.deleteArgv .damon then .error (.exited "cgdelete" (some 1) "busy")
        else .ok {}
      | .write _ _ => .ok ()
      | .read _ => .ok "on\n"
      | .workload _ _ => .ok ⟨{}, ⟨1, 0⟩⟩
    (reply, ())

/-- A run of the other variant, on a runner whose workload broke down in its latest run. -/
def afterBreakdown : Execution Unit (RunEnd × Runner) :=
  let runner : Runner := { site.fresh .abort .on with
    cleanup := Cleanup.register {} (.deleteCgroup .damon)
    stage := .running
    stages := [.idle, .preparing, .running] }
  (runner.run workload (record .baseline)).execute stuck ()

end Sample

/-- The measurement survives, and the cgroup that the earlier run left stays alive. -/
theorem stages_tell_the_run_after_breakdown :
    Sample.afterBreakdown.value.1 ≠ .panicked ∧
      Sample.afterBreakdown.value.2.stages =
        [.idle, .preparing, .running, .capturing, .tearingDown, .aborted] ∧
      ∃ fault measurement, Sample.afterBreakdown.value.1 = .fatal fault (some measurement) := by
  have returned : Sample.afterBreakdown.value.1 ≠ .panicked := by
    intro broke
    have faulty : Sample.afterBreakdown.value.1.fault?.isSome = true := by decide +kernel
    rw [broke] at faulty
    cases faulty
  have stages : Sample.afterBreakdown.value.2.stages =
      [.idle, .preparing, .running, .capturing, .tearingDown, .aborted] := by decide +kernel
  obtain ⟨-, -, -, -, -, -, -, survives⟩ := stages_tell_the_run Sample.stuck Sample.workload
    (Sample.record .baseline) _ () returned
  refine ⟨returned, stages, survives.mpr ?_⟩
  show [Stage.tearingDown, .aborted] <:+: Sample.afterBreakdown.value.2.stages
  rw [stages]
  decide

end CgroupBench
