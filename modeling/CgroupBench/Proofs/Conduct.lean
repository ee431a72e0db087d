import CgroupBench.Proofs.Course

/-!
# Runs that follow a course

What is shown along a course is put together here: from the beginning of a run, through the
course of its record, to the end of its unwinding, and from one run of a series to the next.
What holds between two runs may depend on the records that are still to come. A result that
comes with a fault says either that the unwinding failed with it, or that it went well after
the fault.
-/
namespace CgroupBench

variable {σ κ : Type}

/-- What is known at the end of a run. A run whose workload broke down did not unwind. -/
def Runner.Ended (inv : Runner → κ → σ → Prop) (after : Except Fault Unit → Runner → κ → σ → Prop)
    (workload : Workload) : RunEnd × Runner → κ → σ → Prop
  | (.completed _, runner), account, state | (.failed _, runner), account, state =>
    after (.ok ()) runner account state
  | (.fatal fault _, runner), account, state =>
    after (.error fault) runner account state ∨ after (.ok ()) runner account state
  | (.panicked, runner), account, state =>
    inv runner account state ∧ workload.Panics

theorem Runner.Ended.mono {inv inv' : Runner → κ → σ → Prop}
    {after after' : Except Fault Unit → Runner → κ → σ → Prop} {workload : Workload}
    {out : RunEnd × Runner} {account : κ} {state : σ}
    (h : Runner.Ended inv after workload out account state)
    (broke : ∀ runner account state, inv runner account state → inv' runner account state)
    (closed : ∀ result runner account state, after result runner account state →
      after' result runner account state) :
    Runner.Ended inv' after' workload out account state := by
  obtain ⟨ending, runner⟩ := out
  cases ending with
  | completed _ | failed _ => exact closed _ _ _ _ h
  | fatal _ _ => exact h.imp (closed _ _ _ _) (closed _ _ _ _)
  | panicked => exact ⟨broke _ _ _ h.1, h.2⟩

/-- What has to be shown of an unwinding, and of the notes before and after it. -/
structure Closes (watch : Watch σ κ) (after : Except Fault Unit → Runner → κ → σ → Prop)
    (spent : Runner → κ → σ → Prop) : Prop where
  enter {runner account state} (stage : Stage) : stage ≠ .idle → spent runner account state →
    watch.Ensures (Runner.enter stage runner) account state fun out => spent out.2
  tearDown {runner account state} : spent runner account state →
    watch.Ensures (Runner.tearDown runner) account state fun out => after out.1 out.2
  leave {result runner account state} (stage : Stage) : stage ≠ .idle →
    after result runner account state →
    watch.Ensures (Runner.enter stage runner) account state fun out => after result out.2

namespace Closes

variable {watch : Watch σ κ} {after : Except Fault Unit → Runner → κ → σ → Prop}
  {spent inv : Runner → κ → σ → Prop} {runner : Runner} {account : κ} {state : σ}
  (closes : Closes watch after spent)
include closes

theorem conclude (workload : Workload) (measurement : Measurement)
    (h : spent runner account state) :
    watch.Ensures (Runner.conclude measurement runner) account state
      (Runner.Ended inv after workload) := by
  refine (closes.enter .tearingDown nofun h).andThen ?_
  rintro ⟨_, runner⟩ account state h
  refine (closes.tearDown h).andThen ?_
  rintro ⟨fault | _, runner⟩ account state h
  · exact (closes.leave .aborted nofun h).andThen fun _ _ _ h => .inl h
  · exact (closes.leave .done nofun h).andThen fun _ _ _ h => h

theorem rollBack (workload : Workload) (fault : Fault) (h : spent runner account state) :
    watch.Ensures (Runner.rollBack fault runner) account state
      (Runner.Ended inv after workload) := by
  refine (closes.enter .aborted nofun h).andThen ?_
  rintro ⟨_, runner⟩ account state h
  refine (closes.tearDown h).andThen ?_
  rintro ⟨unrestored | _, runner⟩ account state h
  · exact .inl h
  · cases fault.severity with
    | run => exact h
    | fatal => exact .inr h

end Closes

/-- What is known after a preparation: what to launch, or that the workload broke down. -/
def Runner.Prepared (workload : Workload) (record : Record) (fresh : Runner → κ → σ → Prop)
    (ready : Target → Runner → κ → σ → Prop) (prepared : Option (Variant × Invocation))
    (runner : Runner) (account : κ) (state : σ) : Prop :=
  (∀ variant invocation, prepared = some (variant, invocation) →
    ∃ target, variant = target.variant ∧ Target.ofRecord record = .ok target ∧
      workload.command record = .ok invocation ∧ ready target runner account state) ∧
  (prepared = none → workload.Panics ∧ fresh runner account state)

/-- What is known after an attempt: whatever is measured was launched, and it is of the record
that was run. -/
def Runner.Attempted (workload : Workload) (record : Record)
    (launched : Target → Runner → κ → σ → Prop) (broke : Runner → κ → σ → Prop)
    (measured : Option Measurement) (runner : Runner) (account : κ) (state : σ) : Prop :=
  (∀ measurement, measured = some measurement →
    measurement.record = record ∧ ∃ target, launched target runner account state) ∧
  (measured = none → workload.Panics ∧ broke runner account state)

section

variable {watch : Watch σ κ} {workload : Workload} {record : Record}
  {idle fresh spent inv : Runner → κ → σ → Prop}
  {ready launched : Target → Runner → κ → σ → Prop}
  {broken : Fault → Runner → κ → σ → Prop} {after : Except Fault Unit → Runner → κ → σ → Prop}
  {runner : Runner} {account : κ} {state : σ}

theorem Runner.delivers_prepare
    (refused : ∀ {fault runner account state},
      Target.ofRecord record = .error fault ∨ workload.command record = .error fault →
      fresh runner account state → broken fault runner account state)
    (makeReady : ∀ {target invocation}, Target.ofRecord record = .ok target →
      workload.command record = .ok invocation →
      watch.Delivers fresh (Runner.makeReady target) (fun _ => ready target) broken) :
    watch.Delivers fresh (Runner.prepare workload record)
      (Runner.Prepared workload record fresh ready) broken := by
  intro runner account state h
  have resolve : watch.Ensures (Step.ofExcept (Target.ofRecord record) runner) account state
      fun out account state => Target.ofRecord record = out.1 ∧ fresh out.2 account state :=
    ⟨rfl, h⟩
  refine .step resolve ?_ fun fault _ _ _ h => refused (.inl h.1) h.2
  rintro target runner account state ⟨resolved, h⟩
  cases asked : workload.command record with
  | error fault => exact refused (.inr asked) h
  | panicked => exact ⟨nofun, fun _ => ⟨.inl ⟨record, asked⟩, h⟩⟩
  | ok invocation =>
    refine .step (makeReady resolved asked _ _ _ h) ?_ fun _ _ _ _ h => h
    intro _ runner account state h
    refine ⟨?_, nofun⟩
    rintro variant invocation' same
    obtain ⟨rfl, rfl⟩ := Prod.mk.inj (Option.some.inj same)
    exact ⟨target, rfl, resolved, asked, h⟩

/-- A workload may break down before it is launched or after that. -/
theorem Runner.delivers_attempt (begun : watch.Delivers idle Runner.begin (fun _ => fresh) broken)
    (prepare : watch.Delivers fresh (Runner.prepare workload record)
      (Runner.Prepared workload record fresh ready) broken)
    (measure : ∀ {target invocation}, Target.ofRecord record = .ok target →
      workload.command record = .ok invocation →
      watch.Delivers (ready target)
        (Runner.measure workload record target.variant invocation)
        (fun measured runner account state =>
          (∀ measurement, measured = some measurement →
            measurement.record = record ∧ launched target runner account state) ∧
          (measured = none → workload.Panics ∧ launched target runner account state)) broken) :
    watch.Delivers idle (Runner.attempt workload record)
      (Runner.Attempted workload record launched fun runner account state =>
        fresh runner account state ∨ ∃ target, launched target runner account state) broken := by
  refine begun.bind fun _ => ?_
  refine prepare.bind fun prepared => ?_
  rintro runner account state ⟨made, broke⟩
  cases prepared with
  | none => exact ⟨nofun, fun _ => ⟨(broke rfl).1, .inl (broke rfl).2⟩⟩
  | some prepared =>
    obtain ⟨target, same, resolved, asked, h⟩ := made _ _ rfl
    -- The variant to measure is the one that was resolved from the record.
    dsimp only
    rw [same]
    refine (measure resolved asked _ _ _ h).mono ?_
    rintro ⟨fault | measured, runner⟩ account state h
    · exact h
    · exact ⟨fun _ some => ⟨(h.1 _ some).1, target, (h.1 _ some).2⟩, fun none =>
        ⟨(h.2 none).1, .inr ⟨target, (h.2 none).2⟩⟩⟩

theorem Runner.ensures_run
    (attempt : watch.Delivers idle (Runner.attempt workload record)
      (Runner.Attempted workload record launched inv) broken)
    (closes : Closes watch after spent)
    (measured : ∀ target runner account state, launched target runner account state →
      spent runner account state)
    (faulty : ∀ fault runner account state, broken fault runner account state →
      spent runner account state)
    (h : idle runner account state) :
    watch.Ensures (Runner.run workload record runner) account state
      (Runner.Ended inv after workload) := by
  refine (attempt _ _ _ h).andThen ?_
  rintro ⟨fault | measurement, runner⟩ account state h
  · exact closes.rollBack workload fault (faulty _ _ _ _ h)
  · obtain ⟨made, broke⟩ := h
    cases measurement with
    | none => exact ⟨(broke rfl).2, (broke rfl).1⟩
    | some measurement =>
      obtain ⟨-, target, h⟩ := made _ rfl
      exact closes.conclude workload measurement (measured _ _ _ _ h)

end

/-- What has to be shown of a record, so that its run follows a course from where it begins. -/
structure Conduct (site : Site) (watch : Watch σ κ) (workload : Workload) (record : Record)
    (idle fresh : Runner → κ → σ → Prop) (inv : Target → Milestone → Runner → κ → σ → Prop)
    (broken : Fault → Runner → κ → σ → Prop) : Prop where
  begun : watch.Delivers idle Runner.begin (fun _ => fresh) broken
  refused {fault runner account state} :
    Target.ofRecord record = .error fault ∨ workload.command record = .error fault →
    fresh runner account state → broken fault runner account state
  start {target runner account state} : fresh runner account state →
    inv target .begun runner account state
  course {target invocation} : Target.ofRecord record = .ok target →
    workload.command record = .ok invocation →
    Course site watch workload target invocation (inv target) broken

namespace Conduct

variable {site : Site} {watch : Watch σ κ} {workload : Workload} {record : Record}
  {idle fresh spent : Runner → κ → σ → Prop} {inv : Target → Milestone → Runner → κ → σ → Prop}
  {broken : Fault → Runner → κ → σ → Prop}
  {after : Except Fault Unit → Runner → κ → σ → Prop}
  {runner : Runner} {account : κ} {state : σ}
  (conduct : Conduct site watch workload record idle fresh inv broken)
include conduct

theorem prepare :
    watch.Delivers fresh (Runner.prepare workload record)
      (Runner.Prepared workload record fresh fun target => inv target .ready) broken := by
  refine Runner.delivers_prepare conduct.refused fun resolved asked runner account state h => ?_
  exact (conduct.course resolved asked).makeReady _ _ _ (conduct.start h)

theorem attempt :
    watch.Delivers idle (Runner.attempt workload record)
      (Runner.Attempted workload record (fun target => inv target .launched)
        fun runner account state =>
          fresh runner account state ∨ ∃ target, inv target .launched runner account state)
      broken := by
  refine Runner.delivers_attempt conduct.begun conduct.prepare fun resolved asked => ?_
  exact (conduct.course resolved asked).passage.measure record

/-- Where the workload broke down, the run had just begun or its course was over. -/
theorem run (closes : Closes watch after spent)
    (measured : ∀ target runner account state, inv target .launched runner account state →
      spent runner account state)
    (faulty : ∀ fault runner account state, broken fault runner account state →
      spent runner account state)
    (h : idle runner account state) :
    watch.Ensures (Runner.run workload record runner) account state
      (Runner.Ended (fun runner account state =>
        fresh runner account state ∨ ∃ target, inv target .launched runner account state)
        after workload) :=
  Runner.ensures_run conduct.attempt closes measured faulty h

end Conduct

/-- What has to be shown of the runs of a series: what holds before the first of some records
is handed on to the rest of them by a run that lets the series go on. -/
structure Relay (watch : Watch σ κ) (workload : Workload)
    (between : List Record → Runner → κ → σ → Prop) (last : Runner → κ → σ → Prop) : Prop where
  run {record rest runner account state} : between (record :: rest) runner account state →
    watch.Ensures (Runner.run workload record runner) account state
      (Runner.Ended (fun _ _ _ => True)
        (fun result runner account state => last runner account state ∧
          (result = .ok () → between rest runner account state)) workload)
  ended {records runner account state} : between records runner account state →
    last runner account state
  /-- The last restore writes only where one is owed. -/
  restore {runner account state} : last runner account state →
    runner.machine.smtDisabled = true →
    watch.Ensures (Procedure.write runner.machine.smtControl "on\n") account state
      fun _ _ _ => True

namespace Relay

variable {watch : Watch σ κ} {workload : Workload}
  {between : List Record → Runner → κ → σ → Prop} {last : Runner → κ → σ → Prop}
  {runner : Runner} {account : κ} {state : σ} (relay : Relay watch workload between last)
include relay

theorem runEach (records : List Record) (measurements : List Measurement)
    (h : between records runner account state) :
    watch.Ensures (Runner.runEach workload records measurements runner) account state
      fun out account state => out.1.ending ≠ .panicked → last out.2 account state := by
  induction records generalizing measurements runner account state with
  | nil => exact fun _ => relay.ended h
  | cons record rest ih =>
    refine (relay.run h).andThen ?_
    rintro ⟨ending, runner⟩ account state h
    cases ending with
    | completed measurement => exact ih _ (h.2 rfl)
    | failed fault =>
      dsimp only
      cases runner.policy with
      | goOn => exact ih _ (h.2 rfl)
      | abort => exact fun _ => h.1
    | fatal fault measurement => exact fun _ => h.elim And.left And.left
    | panicked => exact fun calm => absurd rfl calm

theorem enable (h : last runner account state) :
    watch.Ensures (Runner.onMachine Machine.enableSmt runner) account state fun _ _ _ => True := by
  rw [Runner.onMachine, Step.onPart]
  cases owing : runner.machine.smtDisabled with
  | false =>
    rw [Machine.enableSmt_settled owing]
    trivial
  | true =>
    rw [Machine.enableSmt_owing owing]
    refine Watch.Ensures.bind (Watch.Ensures.bind ((relay.restore h owing).mono ?_))
    rintro (_ | _) account state - <;> trivial

theorem settle (result : SeriesResult) (h : last runner account state) :
    watch.Ensures (Runner.settle result runner) account state fun _ _ _ => True := by
  obtain ⟨ending, measurements⟩ := result
  cases ending <;>
    refine (relay.enable h).andThen ?_ <;>
    rintro ⟨_ | _, runner⟩ account state - <;> trivial

theorem runSeries (records : List Record) (measurements : List Measurement)
    (h : between records runner account state) :
    watch.Ensures (Runner.runSeries workload records measurements runner) account state
      fun _ _ _ => True := by
  rw [Runner.runSeries]
  cases Runner.preflight runner.tools.optimizer records with
  | error fault => trivial
  | ok _ =>
    refine (relay.runEach records measurements h).andThen ?_
    rintro ⟨⟨ending, measurements⟩, runner⟩ account state h
    cases ending with
    | panicked => trivial
    | finished => exact relay.settle _ (h SeriesEnd.noConfusion)
    | stopped fault => exact relay.settle _ (h SeriesEnd.noConfusion)

end Relay
end CgroupBench
