import CgroupBench.Proofs.Lifecycle

/-!
# The books of a runner

The notes about reversals, read in order, are the books: what was registered, when it was
drained, and what was carried out. On any host at all the books of a runner consist of whole
rounds and of what is pending now, and no call is made that the books do not allow: a
reversal begins by its own call, and a step that has a reversal comes after its registration.
-/
namespace CgroupBench

/-- The calls of the step that a reversal reverses; the first of them is among these. -/
def Reversal.SetUpBy (site : Site) (call : Call) : Reversal → Prop
  | deleteCgroup variant =>
    call = .run (Cgroups.deleteArgv variant) ∨ call = .run (Cgroups.createArgv variant)
  | stopOptimizer => ∃ descriptor, call = .run (site.tools.optimizer.startArgv descriptor)
  | enableSmt => call = .write site.smtControl "off\n"

def Reversal.CarriedOutBy (site : Site) (call : Call) : Reversal → Prop
  | deleteCgroup variant => call = .run (Cgroups.deleteArgv variant)
  | stopOptimizer => call = .run site.tools.optimizer.stopArgv
  | enableSmt => call = .write site.smtControl "on\n"

/-- A number on a line of its own is no text with anything but digits in it. -/
theorem numberLine_ne (number : Nat) {text : String} (c : Char) (mem : c ∈ text.toList)
    (digit : c.isDigit = false) (line : c ≠ '\n') : s!"{number}\n" ≠ text := by
  rintro rfl
  have split : s!"{number}\n".toList = Nat.toDigits 10 number ++ ['\n'] := by
    simp [toString]
  rw [split, List.mem_append, List.mem_singleton] at mem
  rcases mem with mem | same
  · rw [Nat.isDigit_of_mem_toDigits (by decide) (by decide) mem] at digit
    cases digit
  · exact line same

theorem Cgroups.group_injective : Function.Injective Cgroups.group := by
  intro first second same
  revert same
  cases first <;> cases second <;> decide

/-- The call of a reversal belongs to no step but the one that it reverses. -/
theorem Reversal.same_of_setUpBy {site : Site} {call : Call} {reversal other : Reversal}
    (carried : reversal.CarriedOutBy site call) (setUp : other.SetUpBy site call) :
    other = reversal := by
  cases reversal with
  | deleteCgroup variant =>
    obtain rfl := carried
    cases other with
    | deleteCgroup variant' =>
      simp [SetUpBy, Cgroups.deleteArgv, Cgroups.createArgv] at setUp
      exact congrArg deleteCgroup (Cgroups.group_injective setUp).symm
    | stopOptimizer => simp [SetUpBy, Cgroups.deleteArgv, Optimizer.startArgv] at setUp
    | enableSmt => cases setUp
  | stopOptimizer =>
    obtain rfl := carried
    cases other <;> simp [SetUpBy, Optimizer.stopArgv, Optimizer.startArgv, Cgroups.deleteArgv,
      Cgroups.createArgv] at setUp
  | enableSmt =>
    obtain rfl := carried
    cases other <;> simp [SetUpBy] at setUp

/-- A call of a preparation has the reversal of its step registered. -/
theorem Site.Issues.listed {site : Site} {call : Call} {needed : List Reversal}
    {reversal : Reversal} (issued : site.Issues call needed) (setUp : reversal.SetUpBy site call) :
    reversal ∈ needed := by
  cases issued with
  | clear mem | create mem =>
    cases reversal with
    | deleteCgroup other =>
      simp [Reversal.SetUpBy, Cgroups.deleteArgv, Cgroups.createArgv] at setUp
      exact Cgroups.group_injective setUp ▸ mem
    | stopOptimizer =>
      simp [Reversal.SetUpBy, Cgroups.deleteArgv, Cgroups.createArgv, Optimizer.startArgv] at setUp
    | enableSmt => cases setUp
  | start descriptor mem =>
    cases reversal with
    | deleteCgroup other =>
      simp [Reversal.SetUpBy, Cgroups.deleteArgv, Cgroups.createArgv, Optimizer.startArgv] at setUp
    | stopOptimizer => exact mem
    | enableSmt => cases setUp
  | limit memoryLimit mem =>
    cases reversal with
    | enableSmt =>
      refine absurd (Call.write.inj setUp).2 ?_
      exact numberLine_ne _ 'o' (by decide) (by decide) (by decide)
    | _ => simp [Reversal.SetUpBy] at setUp
  | _ =>
    cases reversal <;> simp [Reversal.SetUpBy, Cgroups.deleteArgv, Cgroups.createArgv,
      Optimizer.startArgv, Optimizer.stopArgv] at setUp

def Event.asEntry : Event → Option Note
  | .noted note => if note.isEntry then some note else none
  | .called _ _ => none

def books (history : List Event) : List Note :=
  history.filterMap Event.asEntry

/-- What is registered, then drained, then carried out newest first. -/
def round (registered : List Reversal) : List Note :=
  registered.map .registered ++ .drained :: registered.reverse.map .reversing

structure Ledger where
  entries : List Note := []
  cleanup : Cleanup := {}
  /-- SMT was switched off and not yet back on. -/
  owed : Bool := false
  /-- The reversal whose call has to come next. -/
  due : Option Reversal := none

namespace Ledger

/-- A restore of SMT that is not owed needs no call. -/
def dueAfter (owed : Bool) : Note → Option Reversal
  | .reversing .enableSmt => if owed then some .enableSmt else none
  | .reversing reversal => some reversal
  | _ => none

def owedAfter (site : Site) (owed : Bool) : (call : Call) → call.Reply → Bool
  | .write path text, .ok () =>
    if path = site.smtControl ∧ text = "off\n" then true
    else if path = site.smtControl ∧ text = "on\n" then false
    else owed
  | _, _ => owed

def enter (site : Site) (ledger : Ledger) : Event → Ledger
  | .noted note =>
    { ledger with
      entries := ledger.entries ++ (Event.noted note).asEntry.toList
      cleanup := note.apply ledger.cleanup
      due := dueAfter ledger.owed note }
  | .called call reply =>
    { ledger with owed := owedAfter site ledger.owed call reply, due := none }

def Allows (site : Site) (ledger : Ledger) : Event → Prop
  | .noted _ => ledger.due = none
  | .called call _ =>
    (∀ reversal, ledger.due = some reversal → reversal.CarriedOutBy site call) ∧
      ∀ reversal, reversal.SetUpBy site call →
        reversal ∈ ledger.cleanup.pending ∨ ledger.due = some reversal

def watch {σ : Type} (site : Site) (host : Host σ) : Watch σ Ledger where
  host
  enter := enter site
  point ledger event _ := ledger.Allows site event

theorem Allows.due {site : Site} {ledger : Ledger} {call : Call} (reversal : Reversal)
    (carried : reversal.CarriedOutBy site call) (due : ledger.due = some reversal)
    (reply : call.Reply) : ledger.Allows site (.called call reply) := by
  refine ⟨fun other some => ?_, fun other setUp => .inr ?_⟩
  · obtain rfl := Option.some.inj (some.symm.trans due)
    exact carried
  · rw [due, Reversal.same_of_setUpBy carried setUp]

/-- The ledger after a history that began with empty books. -/
def after (site : Site) (history : List Event) : Ledger :=
  history.foldl (enter site) {}

theorem foldl_entries {site : Site} {ledger : Ledger} {history : List Event} :
    (history.foldl (enter site) ledger).entries = ledger.entries ++ books history := by
  induction history generalizing ledger with
  | nil => simp [books]
  | cons event rest ih =>
    rw [List.foldl_cons, ih]
    rcases event with ⟨call, reply⟩ | note
    · rfl
    · cases entry : (Event.noted note).asEntry <;> simp [enter, books, entry]

theorem foldl_cleanup {site : Site} {ledger : Ledger} {history : List Event} :
    (history.foldl (enter site) ledger).cleanup = Event.cleanup ledger.cleanup history := by
  induction history generalizing ledger with
  | nil => rfl
  | cons event rest ih => rcases event with ⟨call, reply⟩ | note <;> exact ih

/-- A call is due only right after the note of its reversal. -/
theorem due_after {site : Site} {history : List Event} {reversal : Reversal}
    (h : (after site history).due = some reversal) :
    ∃ earlier, history = earlier ++ [.noted (.reversing reversal)] := by
  rcases List.eq_nil_or_concat history with rfl | ⟨earlier, last, rfl⟩
  · cases h
  rw [List.concat_eq_append] at h ⊢
  rw [after, List.foldl_append] at h
  refine ⟨earlier, ?_⟩
  rcases last with ⟨call, reply⟩ | note
  · cases h
  · have same : note = .reversing reversal := by
      change dueAfter _ note = some reversal at h
      cases note with
      | reversing other =>
        cases other with
        | enableSmt =>
          rw [dueAfter] at h
          by_cases owed : (earlier.foldl (enter site) {}).owed = true
          · rw [if_pos owed] at h
            rw [Option.some.inj h]
          · rw [if_neg owed] at h
            cases h
        | _ => rw [Option.some.inj h]
      | _ => cases h
    rw [same]

end Ledger

/-- The books and the runner agree: what is past, then what is pending. -/
structure Booked (site : Site) (past : List Note → Prop) (runner : Runner) (ledger : Ledger) :
    Prop extends runner.WorksAt site where
  cleanup : ledger.cleanup = runner.cleanup
  owed : ledger.owed = runner.machine.smtDisabled
  entries : ∃ earlier, past earlier ∧
    ledger.entries = earlier ++ runner.cleanup.pending.map .registered
  settled : ledger.due = none

section

variable {σ : Type} {site : Site} {host : Host σ} {past : List Note → Prop}
  {needed : List Reversal} {reversal : Reversal} {runner : Runner} {ledger : Ledger} {state : σ}

/-- With the reversals that are registered. -/
def Booking (site : Site) (past : List Note → Prop) (needed : List Reversal) (runner : Runner)
    (ledger : Ledger) (_ : σ) : Prop :=
  Booked site past runner ledger ∧ ∀ reversal ∈ needed, reversal ∈ runner.cleanup.pending

theorem Booked.agrees {runner' : Runner} (same : runner.Agrees runner')
    (h : Booked site past runner ledger) : Booked site past runner' ledger where
  toWorksAt := h.toWorksAt.agrees same
  cleanup := h.cleanup.trans same.cleanup.symm
  owed := h.owed.trans same.smtDisabled.symm
  entries := by
    rw [same.cleanup]
    exact h.entries
  settled := h.settled

/-- A note that is no entry. -/
theorem Booked.mark {note : Note} (h : Booked site past runner ledger)
    (aside : note.isEntry = false) :
    Booked site past runner (ledger.enter site (.noted note)) := by
  have same : ledger.enter site (.noted note) = ledger := by
    have settled := h.settled
    cases ledger
    cases note <;> simp_all [Ledger.enter, Event.asEntry, Note.isEntry, Note.apply, Ledger.dueAfter]
  rw [same]
  exact h

theorem Booked.register (h : Booked site past runner ledger) (reversal : Reversal) :
    Booked site past { runner with cleanup := runner.cleanup.register reversal }
      (ledger.enter site (.noted (.registered reversal))) where
  toWorksAt := { h.toWorksAt with }
  cleanup := congrArg (Cleanup.register · reversal) h.cleanup
  owed := h.owed
  entries := by
    obtain ⟨earlier, known, entries⟩ := h.entries
    refine ⟨earlier, known, ?_⟩
    show ledger.entries ++ [.registered reversal] = _
    rw [entries, Cleanup.register, List.map_append, List.append_assoc]
    rfl
  settled := rfl

theorem Booked.called {call : Call} {reply : call.Reply} (h : Booked site past runner ledger)
    (apart : Ledger.owedAfter site ledger.owed call reply = ledger.owed) :
    Booked site past runner (ledger.enter site (.called call reply)) :=
  { h with owed := apart.trans h.owed, settled := rfl }

/-- With nothing due, a call is allowed if its own reversal is registered. -/
theorem Booked.allows {call : Call} (h : Booked site past runner ledger) (reply : call.Reply)
    (listed : ∀ reversal, reversal.SetUpBy site call → reversal ∈ runner.cleanup.pending) :
    ledger.Allows site (.called call reply) := by
  refine ⟨fun reversal due => ?_, fun reversal setUp => .inl ?_⟩
  · rw [h.settled] at due
    cases due
  · rw [h.cleanup]
    exact listed reversal setUp

theorem books_register (h : Booking site past needed runner ledger state) (reversal : Reversal) :
    (Ledger.watch site host).Ensures (Runner.register reversal runner) ledger state
      fun out => Booking site past (reversal :: needed) out.2 :=
  ⟨h.1.settled, h.1.register reversal, Cleanup.mem_register h.2⟩

/-- No call of a preparation but one switches SMT, whatever the paths. -/
theorem Site.Issues.owedAfter {call : Call} (issued : site.Issues call needed) (owed : Bool)
    (reply : call.Reply) : Ledger.owedAfter site owed call reply = owed := by
  cases issued with
  | dropCaches => cases reply <;> simp [Ledger.owedAfter]
  | limit memoryLimit =>
    have off : s!"{memoryLimit.toNat}\n" ≠ "off\n" :=
      numberLine_ne _ 'o' (by decide) (by decide) (by decide)
    have on : s!"{memoryLimit.toNat}\n" ≠ "on\n" :=
      numberLine_ne _ 'o' (by decide) (by decide) (by decide)
    cases reply with
    | error cause => rfl
    | ok _ => rw [Ledger.owedAfter, if_neg fun same => off same.2, if_neg fun same => on same.2]
  | _ => rfl

theorem books_issued {call : Call} (issued : site.Issues call needed)
    (h : Booking site past needed runner ledger state) :
    (Ledger.watch site host).Ensures (.ask call .finish) ledger state
      fun _ => Booking site past needed runner := by
  have listed : ∀ reversal, reversal.SetUpBy site call → reversal ∈ runner.cleanup.pending :=
    fun reversal setUp => h.2 reversal (issued.listed setUp)
  refine .ask fun reply state' _ => ?_
  exact ⟨h.1.allows reply listed, h.1.called (issued.owedAfter _ reply), h.2⟩

theorem books_smtOff (h : Booking site past [.enableSmt] runner ledger state) :
    (Ledger.watch site host).Ensures (Procedure.write site.smtControl "off\n") ledger state
      fun reply => Booking site past [.enableSmt] (runner.switchedOff reply) := by
  have listed : ∀ reversal, reversal.SetUpBy site (.write site.smtControl "off\n") →
      reversal ∈ runner.cleanup.pending := by
    intro reversal setUp
    cases reversal with
    | enableSmt => exact h.2 _ (.head _)
    | _ => simp [Reversal.SetUpBy] at setUp
  refine .ask fun reply state' _ => ⟨h.1.allows reply listed, ?_⟩
  cases reply with
  | error cause => exact ⟨h.1.called rfl, h.2⟩
  | ok _ =>
    have owed :
        Ledger.owedAfter site ledger.owed (.write site.smtControl "off\n") (.ok ()) = true :=
      if_pos ⟨rfl, rfl⟩
    exact ⟨{ h.1 with owed, settled := rfl }, h.2⟩

theorem books_upholds : Upholds site (Ledger.watch site host) (Booking site past) where
  worksAt h := h.1.toWorksAt
  relax h := ⟨h.1, fun _ mem => absurd mem List.not_mem_nil⟩
  agrees same h := ⟨h.1.agrees same, same.cleanup ▸ h.2⟩
  aside aside h := ⟨h.1.settled, h.1.mark aside, h.2⟩
  register h _ := books_register h _
  call issued h := books_issued issued h
  smtOff _ h := books_smtOff h

/-! Unwinding. -/

/-- What carrying out some reversals does to the books and to the machine. -/
structure Carried (todo : List Reversal) (machine : Machine) (ledger : Ledger)
    (machine' : Machine) (ledger' : Ledger) : Prop where
  entries : ledger'.entries = ledger.entries ++ todo.map .reversing
  cleanup : ledger'.cleanup = ledger.cleanup
  owed : ledger'.owed = machine'.smtDisabled
  settled : ledger'.due = none
  smtControl : machine'.smtControl = machine.smtControl
  dropCaches : machine'.dropCaches = machine.dropCaches

variable {machine : Machine}

/-- The restore of SMT makes its call only if that is owed. -/
theorem books_enableSmt (control : machine.smtControl = site.smtControl)
    (owed : ledger.owed = machine.smtDisabled)
    (settled : machine.smtDisabled = false → ledger.due = none)
    (allowed : machine.smtDisabled = true → ∀ reply,
      ledger.Allows site (.called (.write site.smtControl "on\n") reply)) :
    (Ledger.watch site host).Ensures (Machine.enableSmt machine) ledger state
      fun out ledger' _ => Carried [] machine ledger out.2 ledger' := by
  cases owing : machine.smtDisabled with
  | false =>
    rw [Machine.enableSmt_settled owing]
    exact ⟨(List.append_nil _).symm, rfl, owed, settled owing, rfl, rfl⟩
  | true =>
    rw [Machine.enableSmt_owing owing, control]
    refine Watch.Ensures.bind (.ask fun reply state' _ => ⟨allowed owing reply, ?_⟩)
    cases reply with
    | error cause =>
      exact ⟨(List.append_nil _).symm, rfl, owed, rfl, rfl, rfl⟩
    | ok _ =>
      have paid : Ledger.owedAfter site ledger.owed (.write site.smtControl "on\n") (.ok ()) =
          false := by
        simp [Ledger.owedAfter]
      exact ⟨(List.append_nil _).symm, rfl, paid, rfl, control.symm, rfl⟩

theorem books_perform (control : machine.smtControl = site.smtControl)
    (owed : ledger.owed = machine.smtDisabled) (reversal : Reversal)
    (due : ledger.due = Ledger.dueAfter ledger.owed (.reversing reversal)) :
    (Ledger.watch site host).Ensures (reversal.perform site.tools machine) ledger state
      fun out ledger' _ => Carried [] machine ledger out.2 ledger' := by
  cases reversal with
  | enableSmt =>
    rw [Ledger.dueAfter, owed] at due
    refine books_enableSmt control owed (fun settled => ?_) fun owing => .due .enableSmt rfl ?_
    · rw [due, settled]
      rfl
    · rw [due, owing]
      rfl
  | deleteCgroup variant =>
    refine Watch.Ensures.bind (Watch.Ensures.bind (.ask fun reply state' _ =>
      ⟨.due (.deleteCgroup variant) rfl due reply, ?_⟩))
    rcases Cgroups.tolerateAbsent reply with cause | _ <;>
      exact ⟨(List.append_nil _).symm, rfl, owed, rfl, rfl, rfl⟩
  | stopOptimizer =>
    refine Watch.Ensures.bind (Watch.Ensures.bind (.ask fun reply state' _ =>
      ⟨.due .stopOptimizer rfl due reply, ?_⟩))
    rcases Optimizer.tolerateStopped reply with cause | _ <;>
      exact ⟨(List.append_nil _).symm, rfl, owed, rfl, rfl, rfl⟩

theorem books_performAll (control : machine.smtControl = site.smtControl)
    (owed : ledger.owed = machine.smtDisabled) (settled : ledger.due = none)
    (todo : List Reversal) :
    (Ledger.watch site host).Ensures (Reversal.performAll site.tools todo machine) ledger state
      fun out ledger' _ => Carried todo machine ledger out.2 ledger' := by
  induction todo generalizing machine ledger state with
  | nil => exact ⟨(List.append_nil _).symm, rfl, owed, settled, rfl, rfl⟩
  | cons reversal todo ih =>
    have noted : (ledger.enter site (.noted (.reversing reversal))).owed = machine.smtDisabled :=
      owed
    refine ⟨settled, ?_⟩
    refine (books_perform control noted reversal rfl).andThen ?_
    rintro ⟨result, machine₁⟩ ledger₁ state₁ carried₁
    refine (ih (carried₁.smtControl.trans control) carried₁.owed carried₁.settled).andThen ?_
    rintro ⟨faults, machine₂⟩ ledger₂ state₂ carried₂
    have both : Carried (reversal :: todo) machine ledger machine₂ ledger₂ :=
      { entries := by
          rw [carried₂.entries, carried₁.entries]
          simp [Ledger.enter, Event.asEntry, Note.isEntry]
        cleanup := carried₂.cleanup.trans carried₁.cleanup
        owed := carried₂.owed
        settled := carried₂.settled
        smtControl := carried₂.smtControl.trans carried₁.smtControl
        dropCaches := carried₂.dropCaches.trans carried₁.dropCaches }
    rcases result with fault | _ <;> exact both

/-- The past with one more round. -/
def Rounded (past : List Note → Prop) (entries : List Note) : Prop :=
  ∃ earlier registered, past earlier ∧ entries = earlier ++ round registered

/-- A runner with nothing pending and no boundary of its own. -/
structure Squared (site : Site) (past : List Note → Prop) (runner : Runner) (ledger : Ledger) :
    Prop extends Booked site (Rounded past) runner ledger where
  empty : runner.cleanup = {}
  vacant : runner.active = none

theorem books_tearDown (h : Booked site past runner ledger) :
    (Ledger.watch site host).Ensures (Runner.tearDown runner) ledger state
      fun out ledger' _ => Squared site past out.2 ledger' := by
  have owed : (ledger.enter site (.noted .drained)).owed = runner.machine.smtDisabled := h.owed
  have carryOut := (books_performAll h.smtControl owed rfl runner.cleanup.pending.reverse :
    (Ledger.watch site host).Ensures _ _ state _)
  rw [← h.tools] at carryOut
  have unwind : (Ledger.watch site host).Ensures
      (unwind runner.tools runner.cleanup.pending.reverse runner.machine)
      (ledger.enter site (.noted .drained)) state
      fun out ledger' _ => Carried runner.cleanup.pending.reverse runner.machine
        (ledger.enter site (.noted .drained)) out.2 ledger' :=
    carryOut.andThen fun _ _ _ carried => carried
  refine ⟨h.settled, ?_⟩
  refine unwind.andThen ?_
  rintro ⟨result, machine⟩ ledger' state' carried
  refine ⟨carried.settled, ?_⟩
  have rounded : Rounded past ledger'.entries := by
    obtain ⟨earlier, known, entries⟩ := h.entries
    refine ⟨earlier, runner.cleanup.pending, known, ?_⟩
    rw [carried.entries]
    show ledger.entries ++ [.drained] ++ _ = _
    rw [entries, round]
    simp only [List.append_assoc, List.singleton_append]
  have settled : Booked site (Rounded past) { runner with cleanup := {}, machine, active := none }
      (ledger'.enter site (.noted (.occupied none))) :=
    { tools := h.tools
      smtControl := carried.smtControl.trans h.smtControl
      dropCaches := carried.dropCaches.trans h.dropCaches
      cleanup := carried.cleanup
      owed := carried.owed
      entries := ⟨ledger'.entries, rounded, rfl⟩
      settled := rfl }
  exact ⟨settled, rfl, rfl⟩

theorem books_unwinds :
    Unwinds site (Ledger.watch site host) (Booking site past)
      fun _ runner ledger _ => Squared site past runner ledger where
  toUpholds := books_upholds
  tearDown h := books_tearDown h.1
  leave _ _ h := ⟨h.settled, { h with toBooked := { h.toBooked.mark rfl with } }⟩

theorem books_onMachine_enableSmt (h : Booked site past runner ledger) :
    (Ledger.watch site host).Ensures (Runner.onMachine Machine.enableSmt runner) ledger state
      fun out ledger' _ => Booked site past out.2 ledger' ∧ out.2.cleanup = runner.cleanup := by
  have stepless : ∀ reversal : Reversal,
      ¬ reversal.SetUpBy site (.write site.smtControl "on\n") := by
    intro reversal
    cases reversal <;> simp [Reversal.SetUpBy]
  have allowed : ∀ reply, ledger.Allows site (.called (.write site.smtControl "on\n") reply) :=
    fun reply => h.allows reply fun reversal setUp => absurd setUp (stepless reversal)
  refine (books_enableSmt h.smtControl h.owed (fun _ => h.settled) fun _ => allowed).andThen ?_
  rintro ⟨result, machine⟩ ledger' state' carried
  refine ⟨?_, rfl⟩
  exact
    { tools := h.tools
      smtControl := carried.smtControl.trans h.smtControl
      dropCaches := carried.dropCaches.trans h.dropCaches
      cleanup := carried.cleanup.trans h.cleanup
      owed := carried.owed
      entries := by
        obtain ⟨earlier, known, entries⟩ := h.entries
        refine ⟨earlier, known, ?_⟩
        rw [carried.entries, List.map_nil, List.append_nil, entries]
      settled := carried.settled }

theorem Booked.mono {past' : List Note → Prop} (h : Booked site past runner ledger)
    (implied : ∀ entries, past entries → past' entries) : Booked site past' runner ledger :=
  { h with
    entries := by
      obtain ⟨earlier, known, entries⟩ := h.entries
      exact ⟨earlier, implied earlier known, entries⟩ }

/-- A series keeps the books in whatever order has room for one more round. -/
theorem books_repeats (room : ∀ entries, Rounded past entries → past entries) :
    Repeats site (Ledger.watch site host) (Booking site past)
      fun _ runner ledger _ => Booked site past runner ledger where
  toUpholds := books_upholds
  tearDown h := (books_tearDown h.1).mono fun _ _ _ squared => squared.toBooked.mono room
  leave _ _ h := ⟨h.settled, { h.mark rfl with }⟩
  again h := ⟨h, fun _ mem => absurd mem List.not_mem_nil⟩
  enable h := (books_onMachine_enableSmt h).mono fun _ _ _ done => ⟨done.1, fun _ _ => done.1⟩

end
end CgroupBench
