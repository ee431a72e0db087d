import CgroupBench.Proofs.Conservation
import CgroupBench.Proofs.OwedRestore
import CgroupBench.Proofs.RunOutcome

/-!
# The debt of SMT and the host

The machine remembers one bit, whether it owes the restore of SMT. That bit agrees with what the
host was told: after any sequence of toggles, and after any life of a runner, the restore is owed
exactly if the last switch that the host answered was to off. The answered switches take turns,
and where SMT was not found on there are none, not even attempts. The host is arbitrary.
-/
namespace CgroupBench

/-- What the host is asked to switch SMT to, and whether it did. -/
def Event.switch? (control : String) : Event → Option (Smt × Bool)
  | .called (.write path text) reply =>
    if path = control ∧ text = "off\n" then some (.off, reply.isOk)
    else if path = control ∧ text = "on\n" then some (.on, reply.isOk)
    else none
  | _ => none

/-- Every attempt to switch SMT, in order. -/
def Event.switches (control : String) (history : List Event) : List (Smt × Bool) :=
  history.filterMap (Event.switch? control)

/-- The attempts that were answered. -/
def Event.switched (control : String) (history : List Event) : List Smt :=
  (Event.switches control history).filterMap fun (smt, done) => if done then some smt else none

/-- Off and on in turns. -/
def Smt.turn (index : Nat) : Smt :=
  if index % 2 = 0 then .off else .on

/-- The machine knows what SMT was found to be, and its debt agrees with the switches. -/
structure Machine.Reconciled (control : String) (found : Smt) (machine : Machine)
    (history : List Event) : Prop where
  smtControl : machine.smtControl = control
  smtAtStart : machine.smtAtStart = found
  untouched : found ≠ .on → Event.switches control history = []
  alternating : Event.switched control history =
    (List.range (Event.switched control history).length).map Smt.turn
  owed : machine.smtDisabled = true ↔ (Event.switched control history).getLast? = some .off

theorem Smt.turn_eq_off {index : Nat} : turn index = .off ↔ index % 2 = 0 := by
  rw [turn]
  split
  next even => simp [even]
  next odd => simp [odd]

/-- Switches that take turns end with off exactly if their number is odd. -/
theorem getLast?_turns (count : Nat) :
    ((List.range count).map Smt.turn).getLast? = some .off ↔ count % 2 = 1 := by
  cases count with
  | zero => simp
  | succ count =>
    rw [List.range_succ, List.map_append, List.map_singleton, List.getLast?_concat,
      Option.some_inj, Smt.turn_eq_off]
    omega

namespace Event

variable {control : String} {event : Event} {smt : Smt} (history : List Event)

theorem switches_other (other : event.switch? control = none) :
    switches control (history ++ [event]) = switches control history := by
  simp [switches, other]

theorem switches_snoc {done : Bool} (tried : event.switch? control = some (smt, done)) :
    switches control (history ++ [event]) = switches control history ++ [(smt, done)] := by
  simp [switches, tried]

theorem switched_snoc (tried : event.switch? control = some (smt, true)) :
    switched control (history ++ [event]) = switched control history ++ [smt] := by
  simp [switched, switches_snoc history tried]

theorem switched_of_failed (tried : event.switch? control = some (smt, false)) :
    switched control (history ++ [event]) = switched control history := by
  simp [switched, switches_snoc history tried]

theorem switch?_off (control : String) (reply : (Call.write control "off\n").Reply) :
    switch? control (.called (.write control "off\n") reply) = some (.off, reply.isOk) := by
  rw [switch?, if_pos ⟨rfl, rfl⟩]

theorem switch?_on (control : String) (reply : (Call.write control "on\n").Reply) :
    switch? control (.called (.write control "on\n") reply) = some (.on, reply.isOk) := by
  rw [switch?, if_neg (fun both => absurd both.2 (by decide)), if_pos ⟨rfl, rfl⟩]

theorem switch?_write {path text : String} (notOff : text ≠ "off\n") (notOn : text ≠ "on\n")
    (reply : (Call.write path text).Reply) :
    switch? control (.called (.write path text) reply) = none := by
  rw [switch?, if_neg (fun both => notOff both.2), if_neg fun both => notOn both.2]

end Event

/-- No call of a preparation is a switch, whatever the paths. -/
theorem Site.Issues.switch? {site : Site} {call : Call} {needed : List Reversal}
    (issued : site.Issues call needed) (control : String) (reply : call.Reply) :
    Event.switch? control (.called call reply) = none := by
  cases issued with
  | dropCaches => exact Event.switch?_write (by decide) (by decide) reply
  | limit memoryLimit =>
    have noOff : s!"{memoryLimit.toNat}\n" ≠ "off\n" :=
      numberLine_ne memoryLimit.toNat 'o' (by decide) (by decide) (by decide)
    have noOn : s!"{memoryLimit.toNat}\n" ≠ "on\n" :=
      numberLine_ne memoryLimit.toNat 'o' (by decide) (by decide) (by decide)
    exact Event.switch?_write noOff noOn reply
  | _ => rfl

namespace Machine

variable {control : String} {found : Smt} {machine : Machine} {history : List Event} {event : Event}

namespace Reconciled

/-- Nothing was switched yet. -/
theorem fresh (machine : Machine) (settled : machine.smtDisabled = false) :
    machine.Reconciled machine.smtControl machine.smtAtStart [] where
  smtControl := rfl
  smtAtStart := rfl
  untouched _ := rfl
  alternating := rfl
  owed := by simp [settled, Event.switched, Event.switches]

theorem agrees {other : Machine} (h : machine.Reconciled control found history)
    (sameControl : other.smtControl = machine.smtControl)
    (sameStart : other.smtAtStart = machine.smtAtStart)
    (sameDebt : other.smtDisabled = machine.smtDisabled) :
    other.Reconciled control found history where
  smtControl := sameControl.trans h.smtControl
  smtAtStart := sameStart.trans h.smtAtStart
  untouched := h.untouched
  alternating := h.alternating
  owed := by
    rw [sameDebt]
    exact h.owed

/-- An event that is no switch. -/
theorem other (h : machine.Reconciled control found history)
    (other : event.switch? control = none) :
    machine.Reconciled control found (history ++ [event]) := by
  have switches : Event.switches control (history ++ [event]) = Event.switches control history :=
    Event.switches_other history other
  have switched : Event.switched control (history ++ [event]) = Event.switched control history := by
    rw [Event.switched, switches]
    rfl
  refine ⟨h.smtControl, h.smtAtStart, ?_, ?_, ?_⟩
  · rw [switches]
    exact h.untouched
  · rw [switched]
    exact h.alternating
  · rw [switched]
    exact h.owed

/-- Where something is owed, SMT was found on. -/
theorem found_on (h : machine.Reconciled control found history)
    (owing : machine.smtDisabled = true) : found = .on := by
  by_contra off
  have last := h.owed.mp owing
  rw [Event.switched, h.untouched off] at last
  cases last

/-- Something is owed exactly if the number of answered switches is odd. -/
theorem owed_iff (h : machine.Reconciled control found history) :
    machine.smtDisabled = true ↔ (Event.switched control history).length % 2 = 1 := by
  rw [h.owed, h.alternating, getLast?_turns, List.length_map, List.length_range]

/-- A switch that failed changes nothing. -/
theorem failed {smt : Smt} (h : machine.Reconciled control found history) (on : found = .on)
    (tried : event.switch? control = some (smt, false)) :
    machine.Reconciled control found (history ++ [event]) := by
  have switched : Event.switched control (history ++ [event]) = Event.switched control history :=
    Event.switched_of_failed history tried
  refine ⟨h.smtControl, h.smtAtStart, fun off => absurd on off, ?_, ?_⟩
  · rw [switched]
    exact h.alternating
  · rw [switched]
    exact h.owed

/-- A switch that was answered, and whose turn it was, turns the debt over. -/
theorem answered (h : machine.Reconciled control found history) (on : found = .on)
    (tried : event.switch? control =
      some (Smt.turn (Event.switched control history).length, true)) :
    Reconciled control found { machine with smtDisabled := !machine.smtDisabled }
      (history ++ [event]) := by
  have switched := Event.switched_snoc history tried
  have alternating : Event.switched control (history ++ [event]) =
      (List.range (Event.switched control (history ++ [event])).length).map Smt.turn := by
    rw [switched, List.length_append, List.length_singleton, List.range_succ, List.map_append,
      List.map_singleton, ← h.alternating]
  refine ⟨h.smtControl, h.smtAtStart, fun off => absurd on off, alternating, ?_⟩
  have before := h.owed_iff
  rw [alternating, getLast?_turns, switched, List.length_append, List.length_singleton]
  cases debt : machine.smtDisabled with
  | false =>
    rw [debt] at before
    have even : ¬ (Event.switched control history).length % 2 = 1 :=
      fun odd => Bool.false_ne_true (before.mpr odd)
    simp only [Bool.not_false, true_iff]
    omega
  | true =>
    have odd := before.mp debt
    simp only [Bool.not_true, Bool.false_eq_true, false_iff]
    omega

/-- SMT is switched off, or it could not be. -/
theorem off (h : machine.Reconciled control found history) (on : found = .on)
    (settled : machine.smtDisabled = false) :
    (∀ cause, machine.Reconciled control found
        (history ++ [.called (.write control "off\n") (.error cause)])) ∧
      Reconciled control found { machine with smtDisabled := true }
        (history ++ [.called (.write control "off\n") (.ok ())]) := by
  refine ⟨fun cause => h.failed on (Event.switch?_off control (.error cause)), ?_⟩
  have turn : Smt.turn (Event.switched control history).length = .off := by
    have even : ¬ (Event.switched control history).length % 2 = 1 := by
      rw [← h.owed_iff, settled]
      exact Bool.false_ne_true
    rw [Smt.turn_eq_off]
    omega
  have tried := Event.switch?_off control (.ok ())
  rw [← turn] at tried
  have answered := h.answered on tried
  rw [settled] at answered
  exact answered

/-- SMT is switched on again, or it could not be. -/
theorem on (h : machine.Reconciled control found history) (owing : machine.smtDisabled = true) :
    (∀ cause, machine.Reconciled control found
        (history ++ [.called (.write control "on\n") (.error cause)])) ∧
      Reconciled control found { machine with smtDisabled := false }
        (history ++ [.called (.write control "on\n") (.ok ())]) := by
  have on := h.found_on owing
  refine ⟨fun cause => h.failed on (Event.switch?_on control (.error cause)), ?_⟩
  have turn : Smt.turn (Event.switched control history).length = .on := by
    have odd := h.owed_iff.mp owing
    rw [Smt.turn, if_neg (by omega)]
  have tried := Event.switch?_on control (.ok ())
  rw [← turn] at tried
  have answered := h.answered on tried
  rw [owing] at answered
  exact answered

end Reconciled

end Machine

/-- What a machine can be asked to do, over and over. -/
inductive Toggle where
  | dropPageCache
  | disableSwap
  | disableSmt
  | enableSmt
deriving DecidableEq, Repr

def Toggle.step : Toggle → Step Machine Unit
  | dropPageCache => Machine.dropPageCache
  | disableSwap => Machine.disableSwap
  | disableSmt => do
    let _ ← Machine.disableSmt
  | enableSmt => Machine.enableSmt

/-- Makes every step, whatever becomes of those before. -/
def Machine.toggleAll : List Toggle → Machine → Procedure Machine
  | [], machine => return machine
  | toggle :: rest, machine => do
    let (_, machine) ← toggle.step machine
    toggleAll rest machine

section

variable {σ α : Type} {host : Host σ} {control : String} {found : Smt} {machine : Machine}
  {history : List Event} {state : σ}

/-- The step keeps a machine reconciled, whether it ends with a value or with a fault. -/
def Step.Reconciles (host : Host σ) (control : String) (found : Smt) (step : Step Machine α) :
    Prop :=
  (Watch.log host).Delivers
    (fun machine history _ => Machine.Reconciled control found machine history) step
    (fun _ machine history _ => Machine.Reconciled control found machine history)
    fun _ machine history _ => Machine.Reconciled control found machine history

theorem Step.Reconciles.of_setup {call : Call} {what : String}
    (other : ∀ reply, Event.switch? control (.called call reply) = none) :
    Step.Reconciles host control found (Step.setup what (.ask call .finish)) := by
  refine .lift (fun _ => rfl) fun machine history state h => ?_
  refine .ask fun reply _ _ => ⟨trivial, ?_⟩
  exact .either (h.other (other reply)) fun _ => h.other (other reply)

/-- A restore that is owed is tried, and still owed only if that try failed. -/
theorem reconciled_enableSmt (h : machine.Reconciled control found history) :
    (Watch.log host).Ensures (Machine.enableSmt machine) history state fun out history _ =>
      out.2.Reconciled control found history ∧ out.2.dropCaches = machine.dropCaches ∧
        (out.2.smtDisabled = true →
          (Event.switches control history).getLast? = some (.on, false)) := by
  obtain rfl := h.smtControl
  cases owing : machine.smtDisabled with
  | false =>
    rw [Machine.enableSmt_settled owing]
    exact ⟨h, rfl, fun owed => absurd (owing.symm.trans owed) Bool.false_ne_true⟩
  | true =>
    rw [Machine.enableSmt_owing owing]
    obtain ⟨failed, restored⟩ := h.on owing
    refine Watch.Ensures.bind (.ask fun reply _ _ => ⟨trivial, ?_⟩)
    rcases reply with cause | ⟨⟩
    · refine ⟨failed cause, rfl, fun _ => ?_⟩
      have snoc := Event.switches_snoc history
        (Event.switch?_on machine.smtControl (.error cause))
      exact (congrArg List.getLast? snoc).trans List.getLast?_concat
    · exact ⟨restored, rfl, nofun⟩

theorem reconciled_disableSmt (h : machine.Reconciled control found history) :
    (Watch.log host).Ensures (Machine.disableSmt machine) history state fun out history _ =>
      out.2.Reconciled control found history := by
  obtain rfl := h.smtControl
  by_cases idle : machine.smtAtStart ≠ .on ∨ machine.smtDisabled = true
  · obtain ⟨owed, same⟩ := Machine.disableSmt_idle idle
    rw [same]
    exact h
  · obtain ⟨on, settled⟩ := not_or.mp idle
    have on : machine.smtAtStart = .on := not_not.mp on
    have settled : machine.smtDisabled = false := Bool.eq_false_iff.mpr settled
    rw [Machine.disableSmt_due on settled]
    obtain ⟨failed, done⟩ := h.off (h.smtAtStart.symm.trans on) settled
    refine Watch.Ensures.bind (.ask fun reply _ _ => ⟨trivial, ?_⟩)
    rcases reply with cause | ⟨⟩
    · exact failed cause
    · exact done

/-- Each toggle keeps the machine reconciled with the host. -/
theorem Toggle.reconciles (toggle : Toggle) :
    Step.Reconciles host control found toggle.step := by
  cases toggle with
  | dropPageCache =>
    have sync : Step.Reconciles host control found
        (Step.setup "sync" (Procedure.run ["sync"])) := .of_setup fun _ => rfl
    refine sync.bind fun _ machine history state h => ?_
    have write : Step.Reconciles host control found
        (Step.setup "drop page cache" (Procedure.write machine.dropCaches "3\n")) :=
      .of_setup fun reply => Event.switch?_write (by decide) (by decide) reply
    show (Watch.log host).Ensures
      ((Step.setup _ (Procedure.write machine.dropCaches "3\n") >>= fun _ => Step.modify _) machine)
      _ _ _
    refine Watch.Delivers.bind write (fun _ machine history state h => ?_) machine history state h
    exact h.agrees rfl rfl rfl
  | disableSwap =>
    have swapOff : Step.Reconciles host control found
        (Step.setup "disable swap" (Procedure.run ["swapoff", "-a"])) := .of_setup fun _ => rfl
    refine swapOff.bind fun _ machine history state h => ?_
    exact h.agrees rfl rfl rfl
  | disableSmt =>
    have switchOff : Step.Reconciles host control found Machine.disableSmt := by
      intro machine history state h
      refine (reconciled_disableSmt h).mono ?_
      rintro ⟨_ | _, machine⟩ history state h <;> exact h
    exact switchOff.bind fun _ _ _ _ h => h
  | enableSmt =>
    intro machine history state h
    refine (reconciled_enableSmt h).mono ?_
    rintro ⟨_ | _, machine⟩ history state h <;> exact h.1

theorem reconciled_toggleAll (toggles : List Toggle)
    (h : machine.Reconciled control found history) :
    (Watch.log host).Ensures (Machine.toggleAll toggles machine) history state
      fun machine history _ => machine.Reconciled control found history := by
  induction toggles generalizing machine history state with
  | nil => exact h
  | cons toggle rest ih =>
    refine (toggle.reconciles machine history state h).andThen ?_
    rintro ⟨_ | _, machine⟩ history state h <;> exact ih h

end

/-! A runner uses its machine by the same toggles. -/

namespace Runner

def engageAll : List Engagement → Runner → Procedure Runner
  | [], runner => return runner
  | engagement :: rest, runner => do
    let runner ← runner.engage engagement
    engageAll rest runner

theorem serve_eq (engagements : List Engagement) (runner : Runner) :
    serve engagements runner = engageAll engagements runner >>= close := by
  induction engagements generalizing runner with
  | nil => rfl
  | cons engagement rest ih =>
    rw [serve, engageAll, bind_assoc]
    exact congrArg (runner.engage engagement >>= ·) (funext ih)

end Runner

/-- The life of a runner that is not given up yet. -/
def Site.engaged (site : Site) (policy : FailurePolicy) (engagements : List Engagement) :
    Procedure Runner := do
  let runner ← site.probe policy
  runner.engageAll engagements

/-- What holds of a run until it unwinds: a restore is registered only where SMT was found on. -/
structure Reckons (site : Site) (found : Smt) (needed : List Reversal) (runner : Runner)
    (history : List Event) : Prop extends runner.WorksAt site where
  machine : runner.machine.Reconciled site.smtControl found history
  armed : .enableSmt ∈ needed → found = .on

section

variable {σ : Type} {site : Site} {host : Host σ} {found : Smt} {needed : List Reversal}
  {runner : Runner} {history : List Event} {event : Event} {state : σ}

theorem Reckons.other (h : Reckons site found needed runner history)
    (other : event.switch? site.smtControl = none) :
    Reckons site found needed runner (history ++ [event]) :=
  ⟨h.toWorksAt, h.machine.other other, h.armed⟩

theorem reckons_upholds :
    Upholds site (Watch.log host) fun needed runner history _ =>
      Reckons site found needed runner history where
  worksAt h := h.toWorksAt
  relax h := ⟨h.toWorksAt, h.machine, nofun⟩
  agrees same h :=
    ⟨h.toWorksAt.agrees same, h.machine.agrees same.smtControl same.smtAtStart same.smtDisabled,
      h.armed⟩
  aside _ h := ⟨trivial, h.other rfl⟩
  register {needed reversal runner history _} h on := by
    refine ⟨trivial, { h.toWorksAt with }, h.machine.other rfl, fun mem => ?_⟩
    rcases List.mem_cons.mp mem with same | mem
    · exact h.machine.smtAtStart.symm.trans (on same.symm)
    · exact h.armed mem
  call issued h := .ask fun reply _ _ => ⟨trivial, h.other (issued.switch? _ reply)⟩
  smtOff settled h := by
    obtain ⟨failed, done⟩ := h.machine.off (h.armed (.head _)) settled
    refine .ask fun reply _ _ => ⟨trivial, ?_⟩
    rcases reply with cause | ⟨⟩
    · exact ⟨h.toWorksAt, failed cause, h.armed⟩
    · exact ⟨{ h.toWorksAt with }, done, h.armed⟩

theorem reckons_unwinding (found : Smt) (runner : Runner) :
    Unwinding site (Watch.log host) fun _ _ machine history _ =>
      Reckons site found [] { runner with machine } history where
  control h := h.smtControl
  call {_ _ machine history _} reversal due h := by
    have noted : Reckons site found [] { runner with machine }
        (history ++ [.noted (.reversing reversal)]) := h.other rfl
    refine ⟨trivial, .ask fun reply _ _ => ⟨trivial, ?_⟩⟩
    cases reversal with
    | enableSmt =>
      obtain ⟨failed, restored⟩ := noted.machine.on (due rfl)
      rcases reply with cause | ⟨⟩
      · exact ⟨nofun, fun _ => ⟨noted.toWorksAt, failed cause, nofun⟩⟩
      · exact ⟨{ noted.toWorksAt with }, restored, nofun⟩
    | deleteCgroup variant => exact .either (noted.other rfl) fun _ => noted.other rfl
    | stopOptimizer => exact .either (noted.other rfl) fun _ => noted.other rfl
  settled _ h := ⟨trivial, h.other rfl⟩

theorem reckons_tearDown (h : Reckons site found [] runner history) :
    (Watch.log host).Ensures (Runner.tearDown runner) history state fun out history _ =>
      Reckons site found [] out.2 history := by
  refine Watch.Ensures.mono ((reckons_unwinding found runner).tearDown
    (fun _ runner history _ => Reckons site found [] runner history) h.tools ?_ ?_) ?_
  · exact ⟨trivial, h.other rfl⟩
  · exact fun _ _ _ _ h => ⟨trivial, { h.toWorksAt with }, h.machine.other rfl, nofun⟩
  · exact fun _ _ _ ⟨_, _, h⟩ => h

theorem reckons_enable (h : Reckons site found [] runner history) :
    (Watch.log host).Ensures (Runner.onMachine Machine.enableSmt runner) history state
      fun out history _ => Reckons site found [] out.2 history ∧
        (out.2.machine.smtDisabled = true →
          (Event.switches site.smtControl history).getLast? = some (.on, false)) := by
  rw [Runner.onMachine, Step.onPart]
  refine (reconciled_enableSmt h.machine).andThen ?_
  rintro ⟨result, machine⟩ history state ⟨reconciled, dropCaches, tried⟩
  have works : ({ runner with machine } : Runner).WorksAt site :=
    ⟨h.tools, reconciled.smtControl, dropCaches.trans h.dropCaches⟩
  exact ⟨⟨works, reconciled, fun needed => absurd needed List.not_mem_nil⟩, tried⟩

theorem reckons_repeats :
    Repeats site (Watch.log host) (fun needed runner history _ =>
      Reckons site found needed runner history)
      (fun _ runner history _ => Reckons site found [] runner history) where
  toUpholds := reckons_upholds
  tearDown h := reckons_tearDown h
  leave _ _ h := ⟨trivial, { h.toWorksAt with }, h.machine.other rfl, nofun⟩
  again h := h
  enable h := (reckons_enable h).mono fun _ _ _ done => ⟨done.1, fun _ _ => done.1⟩

theorem reckons_engage (engagement : Engagement) (h : Reckons site found [] runner history) :
    (Watch.log host).Ensures (runner.engage engagement) history state
      fun runner history _ => Reckons site found [] runner history := by
  cases engagement with
  | run workload record =>
    refine (reckons_repeats.run workload record h).andThen ?_
    rintro ⟨ending, runner⟩ history state ended
    cases ending with
    | completed measurement => exact ended
    | failed fault => exact ended
    | fatal fault measurement => exact ended.elim id id
    | panicked => exact ended.1
  | series workload records measurements =>
    refine (reckons_repeats.runSeries workload records measurements h).andThen ?_
    rintro ⟨⟨ending, measurements⟩, runner⟩ history state closed
    cases ending with
    | finished => exact closed
    | stopped fault => exact closed.elim id id
    | panicked => exact closed.1

theorem reckons_engageAll (engagements : List Engagement)
    (h : Reckons site found [] runner history) :
    (Watch.log host).Ensures (runner.engageAll engagements) history state
      fun runner history _ => Reckons site found [] runner history := by
  induction engagements generalizing runner history state with
  | nil => exact h
  | cons engagement rest ih => exact (reckons_engage engagement h).andThen fun _ _ _ h => ih h

/-- A runner that is given up tries a restore that it owes. -/
theorem reckons_close (h : Reckons site found [] runner history) :
    (Watch.log host).Ensures runner.close history state fun runner history _ =>
      Reckons site found [] runner history ∧
        (runner.machine.smtDisabled = true →
          (Event.switches site.smtControl history).getLast? = some (.on, false)) := by
  unfold Runner.close
  by_cases empty : runner.cleanup.pending = []
  · rw [if_pos empty]
    exact (reckons_enable h).andThen fun _ _ _ done => done
  · rw [if_neg empty]
    refine (reckons_tearDown h).andThen ?_
    rintro ⟨result, runner⟩ history state h
    exact (reckons_enable h).andThen fun _ _ _ done => done

end

section

variable {σ : Type} (host : Host σ) (state : σ)

/-- A machine that is probed owes nothing, and nothing was switched. -/
theorem reconciled_probe (smtControl dropCaches : String) :
    (Watch.log host).Ensures (Machine.probe smtControl dropCaches) [] state
      fun machine history _ =>
        machine = ((Machine.probe smtControl dropCaches).execute host state).value ∧
          machine.dropCaches = dropCaches ∧
          machine.Reconciled smtControl machine.smtAtStart history := by
  refine ⟨trivial, rfl, rfl, ?_⟩
  have fresh : ∀ found, Machine.Reconciled smtControl found
      { smtControl, dropCaches, smtAtStart := found } [] := fun found =>
    .fresh { smtControl, dropCaches, smtAtStart := found } rfl
  exact (fresh _).other rfl

/-- A machine whose SMT is on makes one try to switch it off, and owes the restore if that was
answered. -/
theorem Machine.disableSmt_execute {machine : Machine} (on : machine.smtAtStart = .on)
    (settled : machine.smtDisabled = false) :
    ∃ reply, ((disableSmt machine).execute host state).history =
        [.called (.write machine.smtControl "off\n") reply] ∧
      ((disableSmt machine).execute host state).value.2.smtDisabled = reply.isOk := by
  have tried : (Watch.log host).Ensures (disableSmt machine) [] state fun out history _ =>
      ∃ reply, history = [.called (.write machine.smtControl "off\n") reply] ∧
        out.2.smtDisabled = reply.isOk := by
    rw [disableSmt_due on settled]
    refine Watch.Ensures.bind (.ask fun reply _ _ => ⟨trivial, ?_⟩)
    rcases reply with cause | ⟨⟩
    · exact ⟨.error cause, rfl, settled⟩
    · exact ⟨.ok (), rfl, rfl⟩
  exact tried.finished_ofHistory

/-- A machine that owes the restore makes one try at it, and owes it no more if that was
answered. -/
theorem Machine.enableSmt_execute {machine : Machine} (owing : machine.smtDisabled = true) :
    ∃ reply, ((enableSmt machine).execute host state).history =
        [.called (.write machine.smtControl "on\n") reply] ∧
      ((enableSmt machine).execute host state).value.2.smtDisabled = !reply.isOk := by
  have tried : (Watch.log host).Ensures (enableSmt machine) [] state fun out history _ =>
      ∃ reply, history = [.called (.write machine.smtControl "on\n") reply] ∧
        out.2.smtDisabled = !reply.isOk := by
    rw [enableSmt_owing owing]
    refine Watch.Ensures.bind (.ask fun reply _ _ => ⟨trivial, ?_⟩)
    rcases reply with cause | ⟨⟩
    · exact ⟨.error cause, rfl, owing⟩
    · exact ⟨.ok (), rfl, rfl⟩
  exact tried.finished_ofHistory

theorem reckons_probe (site : Site) (policy : FailurePolicy) :
    (Watch.log host).Ensures (site.probe policy) [] state fun runner history _ =>
      runner = ((site.probe policy).execute host state).value ∧
        Reckons site runner.machine.smtAtStart [] runner history := by
  refine ⟨trivial, rfl, ⟨rfl, rfl, rfl⟩, ?_, nofun⟩
  obtain ⟨-, -, -, reconciled⟩ := reconciled_probe host state site.smtControl site.dropCaches
  exact reconciled

/-- The debt of a machine follows the host. Over any sequence of toggles after a probe, and over the
life of a runner, before it is given up and after: where SMT was not found on, no switch is ever
tried; the switches that the host answered take turns and begin with off; and a restore is owed
exactly if the last of them was off. A switch that fails leaves the debt as it was, and a restore
that is owed is tried each time, and once more when the runner is given up. -/
theorem smt_debt_follows_host :
    (∀ smtControl dropCaches toggles,
      let probed := ((Machine.probe smtControl dropCaches).execute host state).value
      let life := (Machine.probe smtControl dropCaches >>=
        Machine.toggleAll toggles).execute host state
      life.value.Reconciled smtControl probed.smtAtStart life.history) ∧
    (∀ (site : Site) policy engagements,
      let probed := ((site.probe policy).execute host state).value
      let life := (site.engaged policy engagements).execute host state
      life.value.machine.Reconciled site.smtControl probed.machine.smtAtStart life.history) ∧
    (∀ (site : Site) policy engagements,
      let probed := ((site.probe policy).execute host state).value
      let life := (site.session policy engagements).execute host state
      life.value.machine.Reconciled site.smtControl probed.machine.smtAtStart life.history ∧
        (life.value.machine.smtDisabled = true →
          (Event.switches site.smtControl life.history).getLast? = some (.on, false))) ∧
    (∀ machine : Machine, machine.smtAtStart = .on → machine.smtDisabled = false →
      let step := (Machine.disableSmt machine).execute host state
      ∃ reply, step.history = [.called (.write machine.smtControl "off\n") reply] ∧
        step.value.2.smtDisabled = reply.isOk) ∧
    ∀ machine : Machine, machine.smtDisabled = true →
      let step := (Machine.enableSmt machine).execute host state
      ∃ reply, step.history = [.called (.write machine.smtControl "on\n") reply] ∧
        step.value.2.smtDisabled = !reply.isOk := by
  refine ⟨?_, ?_, ?_, ?_, ?_⟩
  · intro smtControl dropCaches toggles probed life
    have lived : (Watch.log host).Ensures (Machine.probe smtControl dropCaches >>=
        Machine.toggleAll toggles) [] state fun machine history _ =>
          machine.Reconciled smtControl probed.smtAtStart history := by
      refine (reconciled_probe host state smtControl dropCaches).andThen ?_
      rintro machine history _ ⟨rfl, -, reconciled⟩
      exact reconciled_toggleAll toggles reconciled
    exact lived.finished_ofHistory
  · intro site policy engagements probed life
    have lived : (Watch.log host).Ensures (site.engaged policy engagements) [] state
        fun runner history _ => Reckons site probed.machine.smtAtStart [] runner history := by
      refine (reckons_probe host state site policy).andThen ?_
      rintro runner history _ ⟨rfl, reckons⟩
      exact reckons_engageAll engagements reckons
    exact lived.finished_ofHistory.machine
  · intro site policy engagements probed life
    have lived : (Watch.log host).Ensures (site.session policy engagements) [] state
        fun runner history _ => Reckons site probed.machine.smtAtStart [] runner history ∧
          (runner.machine.smtDisabled = true →
            (Event.switches site.smtControl history).getLast? = some (.on, false)) := by
      refine (reckons_probe host state site policy).andThen ?_
      rintro runner history _ ⟨rfl, reckons⟩
      rw [Runner.serve_eq]
      exact (reckons_engageAll engagements reckons).andThen fun _ _ _ h => reckons_close h
    have finished := lived.finished_ofHistory
    exact ⟨finished.1.machine, finished.2⟩
  · exact fun machine on settled => Machine.disableSmt_execute host state on settled
  · exact fun machine owing => Machine.enableSmt_execute host state owing

end

/-- The restore fails in the unwinding of the run, after the series, and at the end. -/
example :
    let engagements := [.series Sample.workload [Sample.record .damon] []]
    let life :=
      (Sample.site.session .abort engagements).execute Sample.jammed.host (0, Sample.start)
    Event.switches Sample.site.smtControl life.history =
      [(.off, true), (.on, false), (.on, false), (.on, false)] := by
  decide +kernel

end CgroupBench
