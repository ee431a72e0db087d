import CgroupBench.Proofs.Ledger
import Mathlib.Data.List.Count

/-!
# Reversals are conserved

A runner may be engaged any number of times, for single runs and for series, and is given up
at the end. Hooks of a workload may break down; the caller survives that and goes on. Whatever the
host answers, the books of the whole session are rounds without a remainder: nothing that was
registered is lost, carried out twice, or carried out in another order.
-/
namespace CgroupBench

inductive Engagement where
  | run (workload : Workload) (record : Record)
  | series (workload : Workload) (records : List Record) (measurements : List Measurement)

namespace Runner

def engage (runner : Runner) : Engagement → Procedure Runner
  | .run workload record => do
    let (_, runner) ← run workload record runner
    return runner
  | .series workload records measurements => do
    let (_, runner) ← runSeries workload records measurements runner
    return runner

def serve : List Engagement → Runner → Procedure Runner
  | [], runner => close runner
  | engagement :: rest, runner => do
    let runner ← runner.engage engagement
    serve rest runner

end Runner

/-- The life of a runner, from its probe until it is given up. -/
def Site.session (site : Site) (policy : FailurePolicy) (engagements : List Engagement) :
    Procedure Runner := do
  let runner ← site.probe policy
  runner.serve engagements

/-- Books of whole rounds. -/
def Whole (entries : List Note) : Prop :=
  ∃ rounds : List (List Reversal), entries = rounds.flatMap round

theorem Whole.room (entries : List Note) (h : Rounded Whole entries) : Whole entries := by
  obtain ⟨earlier, registered, ⟨rounds, rfl⟩, rfl⟩ := h
  exact ⟨rounds ++ [registered], by rw [List.flatMap_append, List.flatMap_singleton]⟩

theorem count_round (registered : List Reversal) (reversal : Reversal) :
    (round registered).count (.registered reversal) = registered.count reversal ∧
      (round registered).count (.reversing reversal) = registered.count reversal := by
  have registering : Function.Injective Note.registered := fun _ _ => Note.registered.inj
  have reversing : Function.Injective Note.reversing := fun _ _ => Note.reversing.inj
  have none₁ : (registered.reverse.map Note.reversing).count (.registered reversal) = 0 :=
    List.count_eq_zero.mpr (by simp)
  have none₂ : (registered.map Note.registered).count (.reversing reversal) = 0 :=
    List.count_eq_zero.mpr (by simp)
  rw [round, List.count_append, List.count_append, List.count_cons_of_ne (by simp),
    List.count_cons_of_ne (by simp), none₁, none₂,
    List.count_map_of_injective _ _ registering, List.count_map_of_injective _ _ reversing,
    List.count_reverse]
  omega

/-- In whole rounds everything that is registered is carried out as often. -/
theorem count_rounds (rounds : List (List Reversal)) (reversal : Reversal) :
    (rounds.flatMap round).count (.registered reversal) =
      (rounds.flatMap round).count (.reversing reversal) := by
  induction rounds with
  | nil => rfl
  | cons registered rest ih =>
    obtain ⟨registering, reversing⟩ := count_round registered reversal
    rw [List.flatMap_cons, List.count_append, List.count_append, registering, reversing, ih]

section

variable {σ : Type} {site : Site} {host : Host σ} {runner : Runner} {ledger : Ledger} {state : σ}

theorem books_engage (h : Booked site Whole runner ledger) (engagement : Engagement) :
    (Ledger.watch site host).Ensures (runner.engage engagement) ledger state
      fun runner ledger _ => Booked site Whole runner ledger := by
  cases engagement with
  | run workload record =>
    have steady : Booking site Whole [] runner ledger state :=
      ⟨h, fun _ mem => absurd mem List.not_mem_nil⟩
    refine (books_unwinds.run workload record steady).andThen ?_
    rintro ⟨ending, runner⟩ ledger state ended
    cases ending with
    | completed measurement => exact ended.toBooked.mono Whole.room
    | failed fault => exact ended.toBooked.mono Whole.room
    | fatal fault measurement => exact (ended.elim id id).toBooked.mono Whole.room
    | panicked => exact ended.1.1
  | series workload records measurements =>
    refine ((books_repeats Whole.room).runSeries workload records measurements h).andThen ?_
    rintro ⟨⟨ending, measurements⟩, runner⟩ ledger state closed
    cases ending with
    | finished => exact closed
    | stopped fault => exact closed.elim id id
    | panicked => exact closed.1.1

theorem books_close (h : Booked site Whole runner ledger) :
    (Ledger.watch site host).Ensures runner.close ledger state
      fun runner ledger _ => Booked site Whole runner ledger ∧ runner.cleanup.pending = [] := by
  have restore : ∀ {runner ledger state}, Booked site Whole runner ledger →
      runner.cleanup.pending = [] →
      (Ledger.watch site host).Ensures (do
          let out ← Runner.onMachine Machine.enableSmt runner
          return out.2) ledger state
        fun runner ledger _ => Booked site Whole runner ledger ∧ runner.cleanup.pending = [] := by
    intro runner ledger state booked empty
    refine (books_onMachine_enableSmt booked).andThen ?_
    rintro ⟨result, runner'⟩ ledger' state' ⟨booked', same⟩
    exact ⟨booked', (congrArg Cleanup.pending same).trans empty⟩
  unfold Runner.close
  by_cases empty : runner.cleanup.pending = []
  · rw [if_pos empty]
    exact restore h empty
  · rw [if_neg empty]
    refine (books_tearDown h).andThen ?_
    rintro ⟨result, runner⟩ ledger state squared
    exact restore (squared.toBooked.mono Whole.room) (congrArg Cleanup.pending squared.empty)

theorem books_serve (h : Booked site Whole runner ledger) (engagements : List Engagement) :
    (Ledger.watch site host).Ensures (runner.serve engagements) ledger state
      fun runner ledger _ => Booked site Whole runner ledger ∧ runner.cleanup.pending = [] := by
  induction engagements generalizing runner ledger state with
  | nil => exact books_close h
  | cons engagement rest ih =>
    refine (books_engage h engagement).andThen ?_
    intro runner ledger state booked
    exact ih booked

theorem books_session (policy : FailurePolicy) (engagements : List Engagement) :
    (Ledger.watch site host).Ensures (site.session policy engagements) {} state
      fun runner ledger _ => Booked site Whole runner ledger ∧ runner.cleanup.pending = [] := by
  have allowed : ∀ reply : (Call.read site.smtControl).Reply,
      ({} : Ledger).Allows site (.called (.read site.smtControl) reply) := by
    intro reply
    refine ⟨nofun, fun reversal setUp => absurd setUp ?_⟩
    cases reversal <;> simp [Reversal.SetUpBy]
  refine Watch.Ensures.bind (Watch.Ensures.bind (Watch.Ensures.bind
    (.ask fun reply state' _ => ⟨allowed reply, ?_⟩)))
  exact books_serve ⟨⟨rfl, rfl, rfl⟩, rfl, rfl, ⟨[], ⟨[], rfl⟩, rfl⟩, rfl⟩ engagements

/-- The event right after the note of a reversal is its call, if one is due. -/
theorem carried_out_next {procedure : Procedure Runner} {post : Runner → Ledger → σ → Prop}
    (h : (Ledger.watch site host).Ensures procedure {} state post)
    (settled : ∀ runner ledger state, post runner ledger state → ledger.due = none)
    {before after : List Event} {reversal : Reversal}
    (split : (procedure.execute host state).history =
      before ++ .noted (.reversing reversal) :: after)
    (due : Ledger.dueAfter (Ledger.after site before).owed (.reversing reversal) =
      some reversal) :
    ∃ call reply rest, after = .called call reply :: rest ∧ reversal.CarriedOutBy site call := by
  have noted : ((before ++ [Event.noted (.reversing reversal)]).foldl (Ledger.enter site) {}).due =
      some reversal := by
    rw [List.foldl_append]
    exact due
  rw [List.append_cons] at split
  cases after with
  | nil =>
    have done := settled _ _ _ h.finished
    rw [show ((Ledger.watch site host).host = host) from rfl, split, List.append_nil] at done
    rw [show (Ledger.watch site host).enter = Ledger.enter site from rfl, noted] at done
    cases done
  | cons event rest =>
    have allowed : Ledger.Allows site _ event := h.reached split
    rcases event with ⟨call, reply⟩ | note
    · exact ⟨call, reply, rest, rfl, allowed.1 reversal noted⟩
    · rw [show (Ledger.watch site host).enter = Ledger.enter site from rfl] at allowed
      rw [Ledger.Allows, noted] at allowed
      cases allowed

/-- A call of a step follows the registration of its reversal, unless it carries that out. -/
theorem set_up_registered {procedure : Procedure Runner} {post : Runner → Ledger → σ → Prop}
    (h : (Ledger.watch site host).Ensures procedure {} state post)
    {before after : List Event} {call : Call} {reply : call.Reply} {reversal : Reversal}
    (split : (procedure.execute host state).history = before ++ .called call reply :: after)
    (setUp : reversal.SetUpBy site call) :
    reversal ∈ (Event.cleanup {} before).pending ∨
      ∃ earlier, before = earlier ++ [.noted (.reversing reversal)] := by
  have allowed : Ledger.Allows site _ (.called call reply) := h.reached split
  rcases allowed.2 reversal setUp with listed | due
  · have same : (Ledger.after site before).cleanup = Event.cleanup {} before :=
      Ledger.foldl_cleanup
    rw [← same]
    exact .inl listed
  · exact .inr (Ledger.due_after due)

/-- A run that does not break down makes one round of all that is pending, and leaves nothing
behind, in the journal either. -/
theorem run_squared (host : Host σ) (state : σ) (runner : Runner) (workload : Workload)
    (record : Record) :
    let run := (Runner.run workload record runner).execute host state
    let entries := runner.cleanup.pending.map .registered ++ books run.history
    (run.value.1 = .panicked ∧ ∃ registered : List Reversal, entries = registered.map .registered) ∨
      (∃ registered, entries = round registered) ∧
        run.value.2.cleanup = {} ∧ run.value.2.active = none := by
  intro run entries
  let site : Site := ⟨runner.tools, runner.machine.smtControl, runner.machine.dropCaches⟩
  let ledger : Ledger :=
    ⟨runner.cleanup.pending.map .registered, runner.cleanup, runner.machine.smtDisabled, none⟩
  have booked : Booked site (· = []) runner ledger :=
    ⟨⟨rfl, rfl, rfl⟩, rfl, rfl, ⟨[], rfl, rfl⟩, rfl⟩
  have steady : Booking site (· = []) [] runner ledger state :=
    ⟨booked, fun _ mem => absurd mem List.not_mem_nil⟩
  have ended : Runner.Ended _ _ workload run.value (run.history.foldl (Ledger.enter site) ledger)
      run.host := ((books_unwinds :
    Unwinds site (Ledger.watch site host) _ _).run workload record steady).finished
  have same : (run.history.foldl (Ledger.enter site) ledger).entries = entries :=
    Ledger.foldl_entries
  have squared : ∀ {runner'}, Squared site (· = []) runner'
      (run.history.foldl (Ledger.enter site) ledger) →
      (∃ registered, entries = round registered) ∧
        runner'.cleanup = {} ∧ runner'.active = none := by
    intro runner' squared
    obtain ⟨_, ⟨_, registered, rfl, rfl⟩, whole⟩ := squared.entries
    rw [same, squared.empty] at whole
    exact ⟨⟨registered, by simpa using whole⟩, squared.empty, squared.vacant⟩
  generalize run.value = out at ended ⊢
  obtain ⟨ending, runner'⟩ := out
  cases ending with
  | completed measurement => exact .inr (squared ended)
  | failed fault => exact .inr (squared ended)
  | fatal fault measurement => exact .inr (squared (ended.elim id id))
  | panicked =>
    obtain ⟨_, rfl, unfinished⟩ := ended.1.1.entries
    exact .inl ⟨rfl, _, same.symm.trans unfinished⟩

/-- Over the whole life of a runner, on any host and with hooks that may break down:
what is registered is carried out in rounds, newest first, each reversal as often as it was
registered and by its own call; no step with a reversal calls the host before registering it;
and a run that comes to an end leaves nothing pending. -/
theorem session_conserves (site : Site) (host : Host σ) (state : σ) (policy : FailurePolicy)
    (engagements : List Engagement) :
    let session := (site.session policy engagements).execute host state
    (∃ rounds : List (List Reversal), books session.history = rounds.flatMap round) ∧
    (∀ reversal, (books session.history).count (.registered reversal) =
      (books session.history).count (.reversing reversal)) ∧
    (∀ before after reversal, session.history = before ++ .noted (.reversing reversal) :: after →
      (reversal = .enableSmt → (Ledger.after site before).owed = true) →
      ∃ call reply rest, after = .called call reply :: rest ∧ reversal.CarriedOutBy site call) ∧
    (∀ before call reply after, session.history = before ++ .called call reply :: after →
      ∀ reversal : Reversal, reversal.SetUpBy site call →
      reversal ∈ (Event.cleanup {} before).pending ∨
        ∃ earlier, before = earlier ++ [.noted (.reversing reversal)]) ∧
    ∀ (runner : Runner) (workload : Workload) (record : Record) (state : σ),
      let run := (Runner.run workload record runner).execute host state
      run.value.1 = .panicked ∨ run.value.2.cleanup = {} ∧ run.value.2.active = none := by
  intro session
  have lived := (books_session policy engagements :
    (Ledger.watch site host).Ensures _ _ state _)
  obtain ⟨booked, empty⟩ := lived.finished
  obtain ⟨_, ⟨rounds, rfl⟩, entries⟩ := booked.entries
  have whole : books session.history = rounds.flatMap round := by
    rw [empty, List.map_nil, List.append_nil] at entries
    exact (Ledger.foldl_entries.trans (List.nil_append _)).symm.trans entries
  refine ⟨⟨rounds, whole⟩, ?_, ?_, ?_, ?_⟩
  · intro reversal
    rw [whole]
    exact count_rounds rounds reversal
  · intro before after reversal split owed
    refine carried_out_next lived (fun _ _ _ h => h.1.settled) split ?_
    cases reversal with
    | enableSmt => rw [Ledger.dueAfter, if_pos (owed rfl)]
    | _ => rfl
  · intro before call reply after split reversal setUp
    exact set_up_registered lived split setUp
  · intro runner workload record state
    exact (run_squared host state runner workload record).imp And.left And.right

end
end CgroupBench
