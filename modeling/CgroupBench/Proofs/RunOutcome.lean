import CgroupBench.Proofs.Conduct
import CgroupBench.Proofs.Ending
import CgroupBench.Proofs.Undoing
import CgroupBench.Proofs.Unwinding

/-!
# How faults decide the end of a run

Each place that makes a call treats its errors in its own way: some are excused, some are
swallowed, and a missing tool is a failure of the host before the unwinding but not in it.
Whatever the host answers, this comes out as follows. A missing tool ends the run at once, and
what is left to do is to carry out what is pending. How the run ends is decided by its attempt
and by the reversals that failed, which are read off the history. The host is arbitrary.
-/
namespace CgroupBench

namespace Event

/-- The tool of the call was missing. -/
def unlaunched : Event → Bool
  | called _ (.error cause) => cause.isUnlaunchable
  | _ => false

/-- The note belongs to an unwinding. -/
def unwinds : Event → Bool
  | noted .drained | noted (.reversing _) => true
  | _ => false

theorem cleanup_append (cleanup : Cleanup) (first second : List Event) :
    Event.cleanup cleanup (first ++ second) =
      Event.cleanup (Event.cleanup cleanup first) second := by
  induction first generalizing cleanup with
  | nil => rfl
  | cons event rest ih => cases event <;> exact ih _

theorem mem_calls {history : List Event} {call : Call} {reply : call.Reply}
    (mem : called call reply ∈ history) : ⟨call, reply⟩ ∈ calls history := by
  obtain ⟨before, after, rfl⟩ := List.append_of_mem mem
  rw [calls_append]
  exact List.mem_append_right _ (.head _)

end Event

/-- The reversal that was announced last, and the faults of those before it. -/
structure Tally where
  due : Option Reversal := none
  faults : List Fault := []

namespace Tally

/-- A reversal failed if the call that follows its note gives an error that is not excused. -/
def enter (tally : Tally) : Event → Tally
  | .noted (.reversing reversal) => { tally with due := some reversal }
  | .noted _ => { tally with due := none }
  | .called _ (.ok _) => { tally with due := none }
  | .called _ (.error cause) =>
    match tally.due with
    | none => tally
    | some reversal =>
      { due := none
        faults := if reversal.excuses cause then tally.faults
          else tally.faults ++ [reversal.fault cause] }

theorem enter_idle {faults : List Fault} {event : Event} (idle : event.unwinds = false) :
    enter ⟨none, faults⟩ event = ⟨none, faults⟩ := by
  rcases event with ⟨call, _ | _⟩ | note
  · rfl
  · rfl
  · cases note <;> first | rfl | cases idle

theorem foldl_idle {faults : List Fault} {history : List Event}
    (idle : ∀ event ∈ history, event.unwinds = false) :
    history.foldl enter ⟨none, faults⟩ = ⟨none, faults⟩ := by
  induction history with
  | nil => rfl
  | cons event rest ih =>
    rw [List.foldl_cons, enter_idle (idle _ (.head _))]
    exact ih fun other mem => idle _ (.tail _ mem)

end Tally

/-- The faults of the reversals that failed in a history. -/
def Event.failures (history : List Event) : List Fault :=
  (history.foldl Tally.enter {}).faults

theorem Tally.mem_enter {tally : Tally} {event : Event} {fault : Fault}
    (mem : fault ∈ (tally.enter event).faults) :
    fault ∈ tally.faults ∨ ∃ (reversal : Reversal) (cause : CallError),
      fault = reversal.fault cause := by
  rcases event with ⟨call, cause | answer⟩ | note
  · cases due : tally.due with
    | none => exact .inl (by simpa [enter, due] using mem)
    | some reversal =>
      cases known : reversal.excuses cause with
      | true => exact .inl (by simpa [enter, due, known] using mem)
      | false =>
        have added : fault ∈ tally.faults ++ [reversal.fault cause] := by
          simpa [enter, due, known] using mem
        rcases List.mem_append.mp added with mem | last
        · exact .inl mem
        · exact .inr ⟨reversal, cause, List.mem_singleton.mp last⟩
  · exact .inl mem
  · cases note <;> exact .inl mem

/-- A failure is the fault of a reversal. -/
theorem Event.mem_failures {history : List Event} {fault : Fault} (mem : fault ∈ failures history) :
    ∃ (reversal : Reversal) (cause : CallError), fault = reversal.fault cause := by
  have whole : ∀ (history : List Event) (tally : Tally),
      fault ∈ (history.foldl Tally.enter tally).faults → fault ∈ tally.faults ∨
        ∃ (reversal : Reversal) (cause : CallError), fault = reversal.fault cause := by
    intro history
    induction history with
    | nil => exact fun _ mem => .inl mem
    | cons event rest ih =>
      intro tally mem
      rcases ih _ mem with mem | failed
      · exact Tally.mem_enter mem
      · exact .inr failed
  exact (whole history {} mem).resolve_left List.not_mem_nil

/-- A point in a history that was just extended is the new one or an old one. -/
theorem split_concat {history before after : List Event} {event last : Event}
    (split : history ++ [last] = before ++ event :: after) :
    (before = history ∧ event = last ∧ after = []) ∨
      ∃ earlier, history = before ++ event :: earlier ∧ after = earlier ++ [last] := by
  rcases split_append split with old | ⟨middle, same, new⟩
  · exact .inr old
  · obtain ⟨rfl, rfl, rfl⟩ : middle = [] ∧ event = last ∧ after = [] := by
      cases middle with
      | nil =>
        obtain ⟨rfl, rfl⟩ := List.cons.inj new
        exact ⟨rfl, rfl, rfl⟩
      | cons first middle => exact absurd (List.cons.inj new).2 (by simp)
    exact .inl ⟨same.trans (List.append_nil history), rfl, rfl⟩

/-! Until the unwinding. -/

/-- What every history until the unwinding has to it. -/
structure Advances (start : Cleanup) (runner : Runner) (history : List Event) : Prop where
  cleanup : Event.cleanup start history = runner.cleanup
  idle : ∀ event ∈ history, event.unwinds = false

/-- No tool was missing so far. -/
structure Equipped (site : Site) (start : Cleanup) (runner : Runner) (history : List Event) :
    Prop extends runner.WorksAt site, Advances start runner history where
  launched : ∀ event ∈ history, event.unlaunched = false

/-- If a tool was missing the fault is fatal, and nothing was done since. -/
structure Halts (site : Site) (start : Cleanup) (fault : Fault) (runner : Runner)
    (history : List Event) : Prop extends runner.WorksAt site, Advances start runner history where
  halted : ∀ before event after, history = before ++ event :: after → event.unlaunched = true →
    fault.severity = .fatal ∧ Event.calls after = [] ∧ Event.cleanup start before = runner.cleanup

section

variable {site : Site} {start : Cleanup} {runner runner' : Runner} {history : List Event}
  {event : Event}

theorem Advances.snoc (h : Advances start runner history) (idle : event.unwinds = false)
    (cleanup : Event.cleanup runner.cleanup [event] = runner'.cleanup) :
    Advances start runner' (history ++ [event]) where
  cleanup := by rw [Event.cleanup_append, h.cleanup, cleanup]
  idle other mem := by
    rcases List.mem_append.mp mem with mem | mem
    · exact h.idle other mem
    · exact List.mem_singleton.mp mem ▸ idle

theorem Equipped.snoc (h : Equipped site start runner history) (works : runner'.WorksAt site)
    (idle : event.unwinds = false)
    (cleanup : Event.cleanup runner.cleanup [event] = runner'.cleanup)
    (launched : event.unlaunched = false) :
    Equipped site start runner' (history ++ [event]) where
  toWorksAt := works
  toAdvances := h.toAdvances.snoc idle cleanup
  launched other mem := by
    rcases List.mem_append.mp mem with mem | mem
    · exact h.launched other mem
    · exact List.mem_singleton.mp mem ▸ launched

theorem Equipped.halts (h : Equipped site start runner history) (fault : Fault) :
    Halts site start fault runner history where
  toWorksAt := h.toWorksAt
  toAdvances := h.toAdvances
  halted before event after split missing := by
    rw [h.launched event (by simp [split])] at missing
    cases missing

/-- A call whose error becomes the fault of the run. -/
theorem Equipped.refused (h : Equipped site start runner history) {call : Call} {cause : CallError}
    {fault : Fault} (fatal : cause.isUnlaunchable = true → fault.severity = .fatal) :
    Halts site start fault runner (history ++ [.called call (.error cause)]) where
  toWorksAt := h.toWorksAt
  toAdvances := h.toAdvances.snoc rfl rfl
  halted before event after split missing := by
    rcases split_concat split with ⟨rfl, rfl, rfl⟩ | ⟨earlier, whole, rfl⟩
    · exact ⟨fatal missing, rfl, h.cleanup⟩
    · exact absurd missing (by simp [h.launched event (by simp [whole])])

theorem Halts.abandoned {fault : Fault} (h : Halts site start fault runner history)
    {boundary : Option Boundary} (works : runner'.WorksAt site)
    (same : runner'.cleanup = runner.cleanup) :
    Halts site start fault runner' (history ++ [.noted (.occupied boundary)]) where
  toWorksAt := works
  toAdvances := h.toAdvances.snoc rfl same.symm
  halted before event after split missing := by
    rcases split_concat split with ⟨rfl, rfl, rfl⟩ | ⟨earlier, whole, rfl⟩
    · cases missing
    · obtain ⟨fatal, quiet, cleanup⟩ := h.halted before event earlier whole missing
      refine ⟨fatal, ?_, cleanup.trans same.symm⟩
      rw [Event.calls_append, quiet]
      rfl

end

/-- What a call of a run excuses is no missing tool, and a missing tool becomes a fatal fault. -/
theorem Milestone.Calls.unlaunchable {site : Site} {target : Target} {benchmark : String}
    {invocation : Invocation} {here there : Milestone} {call : Call} {excused : CallError → Bool}
    {wrap : CallError → Fault}
    (calls : Milestone.Calls site target benchmark invocation here call excused wrap there)
    {cause : CallError} (missing : cause.isUnlaunchable = true) :
    excused cause = false ∧ (wrap cause).severity = .fatal := by
  cases calls with
  | sync | dropCaches | swapOff => exact ⟨by simp [missing], Fault.severity_ofSetup.mpr missing⟩
  | stop | clear | start =>
    refine ⟨?_, Fault.severity_ofSetup.mpr missing⟩
    cases cause <;> first | rfl | cases missing
  | launch =>
    rw [Runner.launchFault, if_pos missing]
    exact ⟨rfl, rfl⟩

/-- Nothing is asked of any event, and all are kept. -/
def Watch.log {σ : Type} (host : Host σ) : Watch σ (List Event) :=
  .ofHistory host fun _ _ _ => True

section

variable {σ : Type} {site : Site} {host : Host σ} {start : Cleanup} {workload : Workload}
  {target : Target} {invocation : Invocation}

theorem outcome_course :
    Course site (Watch.log host) workload target invocation
      (fun _ runner history _ => Equipped site start runner history)
      (fun fault runner history _ => Halts site start fault runner history) where
  worksAt h := h.toWorksAt
  follows same h :=
    ⟨h.toWorksAt.agrees same.toAgrees, ⟨h.cleanup.trans same.cleanup.symm, h.idle⟩, h.launched⟩
  passing {note _ _ _ _} passing h := by
    refine ⟨trivial, ?_⟩
    cases note with
    | entered _ | inspected _ => exact h.snoc h.toWorksAt rfl rfl rfl
    | _ => cases passing
  skip _ h := h
  registered _ _ h := ⟨trivial, h.snoc { h.toWorksAt with } rfl rfl rfl⟩
  call calls h := by
    refine .ask fun reply _ _ => ⟨trivial, ?_⟩
    rcases reply with cause | _
    · refine ⟨fun excused => h.snoc h.toWorksAt rfl rfl ?_, fun _ =>
        h.refused fun missing => (calls.unlaunchable missing).2⟩
      -- An error that is excused is not that of a missing tool.
      by_contra missing
      rw [(calls.unlaunchable (by simpa [Event.unlaunched] using missing)).1] at excused
      cases excused
    · exact h.snoc h.toWorksAt rfl rfl rfl
  retry _ h := by
    refine .ask fun reply _ _ => ⟨trivial, ?_⟩
    rcases reply with cause | _
    · exact ⟨fun launched => h.snoc h.toWorksAt rfl rfl launched,
        h.refused Fault.severity_ofSetup.mpr⟩
    · exact h.snoc h.toWorksAt rfl rfl rfl
  undescribed _ _ h := h.halts _
  occupied _ h := ⟨trivial, h.snoc { h.toWorksAt with } rfl rfl rfl⟩
  abandoned h := ⟨trivial, h.abandoned { h.toWorksAt with } rfl⟩
  smtOff _ h := by
    refine .ask fun reply _ _ => ⟨trivial, ?_⟩
    rcases reply with cause | _
    · refine ⟨fun excused => h.snoc h.toWorksAt rfl rfl ?_, fun _ =>
        h.refused Fault.severity_ofSetup.mpr⟩
      simpa [Event.unlaunched] using excused
    · exact h.snoc { h.toWorksAt with } rfl rfl rfl
  faulty _ h := h.halts _

theorem outcome_conduct (record : Record) :
    Conduct site (Watch.log host) workload record
      (fun runner history _ => Equipped site start runner history)
      (fun runner history _ => Equipped site start runner history)
      (fun _ _ runner history _ => Equipped site start runner history)
      (fun fault runner history _ => Halts site start fault runner history) where
  begun _ _ _ h := by
    have idle : Equipped site start _ (_ ++ [.noted (.entered .idle)]) :=
      h.snoc h.toWorksAt rfl rfl rfl
    exact ⟨trivial, trivial, idle.snoc { idle.toWorksAt with } rfl rfl rfl⟩
  refused _ h := h.halts _
  start h := h
  course _ _ := outcome_course

theorem attempt_log (host : Host σ) (workload : Workload) (record : Record) (runner : Runner)
    (state : σ) :
    let attempted := (Runner.attempt workload record runner).execute host state
    Watch.Outcome (fun _ after history _ => Equipped runner.site runner.cleanup after history)
      (fun fault after history _ => Halts runner.site runner.cleanup fault after history)
      attempted.value attempted.history attempted.host := by
  intro attempted
  have begun : Equipped runner.site runner.cleanup runner [] :=
    ⟨runner.worksAt_site, ⟨rfl, List.forall_mem_nil _⟩, List.forall_mem_nil _⟩
  have ensures : (Watch.log host).Ensures (Runner.attempt workload record runner) [] state
      (Watch.Outcome (fun _ after history _ => Equipped runner.site runner.cleanup after history)
        fun fault after history _ => Halts runner.site runner.cleanup fault after history) := by
    refine ((outcome_conduct record).attempt _ _ _ begun).mono ?_
    rintro ⟨fault | measured, after⟩ history _ h
    · exact h
    · cases measured with
      | none => exact (h.2 rfl).2.elim id fun ⟨_, h⟩ => h
      | some measurement =>
        obtain ⟨-, -, h⟩ := h.1 measurement rfl
        exact h
  exact ensures.finished_ofHistory

theorem attempt_advances (host : Host σ) (workload : Workload) (record : Record)
    (runner : Runner) (state : σ) :
    let attempted := (Runner.attempt workload record runner).execute host state
    attempted.value.2.WorksAt runner.site ∧
      Advances runner.cleanup attempted.value.2 attempted.history := by
  intro attempted
  have log := attempt_log host workload record runner state
  revert log
  show Watch.Outcome _ _ attempted.value _ _ → _
  rcases attempted.value with ⟨fault | measured, after⟩
  · exact fun halts => ⟨halts.toWorksAt, halts.toAdvances⟩
  · exact fun equipped => ⟨equipped.toWorksAt, equipped.toAdvances⟩

/-- A tool that is missing in an attempt ends it. -/
theorem attempt_halts {host : Host σ} {workload : Workload} {record : Record} {runner : Runner}
    {state : σ} {before after : List Event} {event : Event}
    (split : ((Runner.attempt workload record runner).execute host state).history =
      before ++ event :: after) (missing : event.unlaunched = true) :
    let attempted := (Runner.attempt workload record runner).execute host state
    ∃ fault, attempted.value.1 = .error fault ∧ fault.severity = .fatal ∧
      Event.calls after = [] ∧ Event.cleanup runner.cleanup before = attempted.value.2.cleanup := by
  intro attempted
  have log := attempt_log host workload record runner state
  revert log
  show Watch.Outcome _ _ attempted.value _ _ → _
  rcases attempted.value with ⟨fault | measured, final⟩
  · exact fun halts => ⟨fault, rfl, halts.halted before event after split missing⟩
  · intro equipped
    rw [equipped.launched event (by simp [split])] at missing
    cases missing

/-! The unwinding. -/

/-- What a history of an unwinding has to it, while the reversals `todo` are still to come. -/
structure Carries (site : Site) (reversals : List Reversal) (faults : List Fault)
    (todo : List Reversal) (machine : Machine) (history : List Event) : Prop where
  control : machine.smtControl = site.smtControl
  failures : Event.failures history = faults
  unlaunched : ∀ event ∈ history, event.unlaunched = true → faults ≠ []
  calls : ((Event.calls history).map (·.1) ++ todo.map (·.call site)).Sublist
    (reversals.map (·.call site))

/-- The fault of a reversal by the reply to its call, if it is one. -/
def Reversal.faults {α : Type} (reversal : Reversal) : Except CallError α → List Fault
  | .ok _ => []
  | .error cause => if reversal.excuses cause then [] else [reversal.fault cause]

theorem Event.failures_call {history : List Event} {reversal : Reversal} {call : Call}
    (reply : call.Reply) :
    failures (history ++ [noted (.reversing reversal)] ++ [called call reply]) =
      failures history ++ reversal.faults reply := by
  rw [failures, List.foldl_append, List.foldl_append]
  rcases reply with cause | answer
  · show (if reversal.excuses cause then failures history
      else failures history ++ [reversal.fault cause]) = _
    cases known : reversal.excuses cause <;> simp [Reversal.faults, known]
  · exact (List.append_nil _).symm

theorem Carries.called {reversals : List Reversal} {faults faults' : List Fault}
    {todo : List Reversal} {machine machine' : Machine} {history : List Event}
    {reversal : Reversal} {reply : (reversal.call site).Reply}
    (h : Carries site reversals faults (reversal :: todo) machine history)
    (control : machine'.smtControl = machine.smtControl)
    (now : faults' = faults ++ reversal.faults reply) :
    Carries site reversals faults' todo machine'
      (history ++ [.noted (.reversing reversal)] ++ [.called (reversal.call site) reply]) where
  control := control.trans h.control
  failures := by rw [Event.failures_call, h.failures, now]
  unlaunched event mem missing := by
    rw [now]
    simp only [List.mem_append, List.mem_singleton] at mem
    rcases mem with (mem | rfl) | rfl
    · exact List.append_ne_nil_of_left_ne_nil (h.unlaunched event mem missing) _
    · cases missing
    · rcases reply with cause | answer
      · have missing : cause.isUnlaunchable = true := missing
        simp [Reversal.faults, Reversal.excuses_of_isUnlaunchable missing]
      · cases missing
  calls := by
    have calls := h.calls
    rw [Event.calls_append, Event.calls_append]
    simpa [Event.calls] using calls

theorem Carries.noted {reversals : List Reversal} {faults : List Fault}
    {todo todo' : List Reversal} {machine : Machine} {history : List Event} {note : Note}
    (h : Carries site reversals faults todo machine history) (fewer : todo'.Sublist todo) :
    Carries site reversals faults todo' machine (history ++ [.noted note]) where
  control := h.control
  failures := by
    have kept : (Tally.enter (history.foldl Tally.enter {}) (.noted note)).faults = faults :=
      Eq.trans (by cases note <;> rfl) h.failures
    rw [Event.failures, List.foldl_append]
    exact kept
  unlaunched event mem missing := by
    rcases List.mem_append.mp mem with mem | mem
    · exact h.unlaunched event mem missing
    · rw [List.mem_singleton.mp mem] at missing
      cases missing
  calls := by
    rw [Event.calls_append]
    exact List.Sublist.trans (List.Sublist.append (by simp [Event.calls]) (fewer.map _)) h.calls

theorem outcome_unwinding (reversals : List Reversal) :
    Unwinding site (Watch.log host) (fun faults todo machine history _ =>
      Carries site reversals faults todo machine history) where
  control h := h.control
  call {faults todo machine history _} reversal _ h := by
    refine ⟨trivial, .ask fun reply _ _ => ⟨trivial, ?_⟩⟩
    have settle := reversal.smtControl_settle machine
    rcases reply with cause | _
    · refine ⟨fun excused => h.called settle ?_, fun failed => h.called rfl ?_⟩
      · rw [Reversal.faults, if_pos excused, List.append_nil]
      · rw [Reversal.faults, if_neg (by simp [failed])]
    · exact h.called settle (List.append_nil _).symm
  settled _ h := ⟨trivial, h.noted (List.sublist_cons_self _ _)⟩

/-- What an unwinding reports, and what it did. -/
theorem tearDown_log (host : Host σ) (runner : Runner) (state : σ) :
    let unwound := (Runner.tearDown runner).execute host state
    unwound.value.1 = verdict (Event.failures unwound.history) ∧
      (∀ event ∈ unwound.history, event.unlaunched = true →
        Event.failures unwound.history ≠ []) ∧
      ((Event.calls unwound.history).map (·.1)).Sublist
        (runner.cleanup.pending.reverse.map (·.call runner.site)) := by
  intro unwound
  have begun : Carries runner.site runner.cleanup.pending.reverse []
      runner.cleanup.pending.reverse runner.machine [] :=
    ⟨rfl, rfl, List.forall_mem_nil _, List.Sublist.refl _⟩
  have ensures : (Watch.log host).Ensures (Runner.tearDown runner) [] state
      fun out history _ => ∃ faults, out.1 = verdict faults ∧
        Carries runner.site runner.cleanup.pending.reverse faults [] out.2.machine history := by
    refine (outcome_unwinding runner.cleanup.pending.reverse).tearDown
      (fun faults after history _ => Carries runner.site runner.cleanup.pending.reverse faults []
        after.machine history) runner.worksAt_site.tools ?_ ?_
    · exact ⟨trivial, begun.noted (List.Sublist.refl _)⟩
    · exact fun _ _ _ _ h => ⟨trivial, h.noted (List.Sublist.refl _)⟩
  obtain ⟨faults, reported, carries⟩ := ensures.finished_ofHistory
  obtain rfl := carries.failures
  exact ⟨reported, carries.unlaunched, by simpa using carries.calls⟩

theorem Tally.foldl_stages (tally : Tally) {history : List Event}
    (stages : ∀ event ∈ history, ∃ stage, event = .noted (.entered stage)) :
    (history.foldl enter tally).faults = tally.faults := by
  induction history generalizing tally with
  | nil => rfl
  | cons event rest ih =>
    obtain ⟨stage, rfl⟩ := stages event (.head _)
    exact ih _ fun other mem => stages other (.tail _ mem)

theorem Event.calls_stages {history : List Event}
    (stages : ∀ event ∈ history, ∃ stage, event = noted (.entered stage)) :
    calls history = [] := by
  induction history with
  | nil => rfl
  | cons event rest ih =>
    obtain ⟨stage, rfl⟩ := stages event (.head _)
    exact ih fun other mem => stages other (.tail _ mem)

theorem Event.failures_around {before during after : List Event} {stage : Stage}
    (idle : ∀ event ∈ before, event.unwinds = false)
    (stages : ∀ event ∈ after, ∃ stage, event = .noted (.entered stage)) :
    failures (before ++ noted (.entered stage) :: (during ++ after)) = failures during := by
  rw [failures, List.foldl_append, Tally.foldl_idle idle, List.foldl_cons, List.foldl_append,
    Tally.foldl_stages _ stages]
  rfl

theorem Event.failures_idle {history : List Event}
    (idle : ∀ event ∈ history, event.unwinds = false) : failures history = [] := by
  rw [failures, Tally.foldl_idle idle]

/-- How the end of a run follows from its attempt and from its history. -/
structure RunEnd.Explained (runner : Runner)
    (attempted : Execution σ (Except Fault (Option Measurement) × Runner))
    (run : Execution σ (RunEnd × Runner)) : Prop where
  /-- A missing tool is fatal, whatever it was needed for. -/
  unlaunched : ∀ event ∈ run.history, event.unlaunched = true →
    ∃ fault measurement, run.value.1 = .fatal fault measurement
  /-- If a tool is missed before the unwinding, nothing is done any more but to carry out what
  is pending by then. -/
  cutShort : ∀ before (call : Call) cause after,
    run.history = before ++ .called call (.error cause) :: after → cause.isUnlaunchable = true →
    .noted .drained ∉ before →
    ((Event.calls after).map (·.1)).Sublist
      ((Event.cleanup runner.cleanup before).pending.reverse.map (·.call runner.site)) ∧
      ∀ scope invocation reply, .called (.workload scope invocation) reply ∉ after
  completed : ∀ measurement, run.value.1 = .completed measurement ↔
    attempted.value.1 = .ok (some measurement) ∧ Event.failures run.history = []
  failed : ∀ fault, run.value.1 = .failed fault ↔
    attempted.value.1 = .error fault ∧ fault.severity = .run ∧ Event.failures run.history = []
  survived : ∀ measurement, (∃ fault, run.value.1 = .fatal fault (some measurement)) ↔
    attempted.value.1 = .ok (some measurement) ∧ Event.failures run.history ≠ []
  /-- What is reported is a fault of the unwinding, if there was one. -/
  reported : Event.failures run.history ≠ [] →
    ∃ fault ∈ Event.failures run.history, ∃ measurement,
      run.value.1 = .fatal fault measurement

theorem run_value (host : Host σ) (workload : Workload) (record : Record) (runner : Runner)
    (state : σ) :
    ((Runner.run workload record runner).execute host state).value.1 =
      .ofPhases ((Runner.attempt workload record runner).execute host state).value.1
        (verdict (Event.failures
          ((Runner.run workload record runner).execute host state).history)) := by
  obtain ⟨-, advances⟩ := attempt_advances host workload record runner state
  by_cases broke : ((Runner.attempt workload record runner).execute host state).value.1 = .ok none
  · rw [(Runner.run_execute_broken host broke).1, broke]
    rfl
  · obtain ⟨stage, last, value, history, stages⟩ := Runner.run_execute host broke
    rw [value, history, Event.failures_around advances.idle stages, (tearDown_log host _ _).1]

/-- A call that comes before the second of two notes comes before the first. -/
theorem split_before_notes {history before after rest : List Event} {first second : Note}
    {call : Call} {reply : call.Reply}
    (split : history ++ .noted first :: .noted second :: rest =
      before ++ .called call reply :: after) (early : .noted second ∉ before) :
    ∃ middle, history = before ++ .called call reply :: middle ∧
      after = middle ++ .noted first :: .noted second :: rest := by
  rcases split_append split with within | ⟨more, reached, onward⟩
  · exact within
  · match more with
    | [] => cases (List.cons.inj onward).1
    | [_] => cases (List.cons.inj (List.cons.inj onward).2).1
    | _ :: other :: _ =>
      have same : .noted second = other := (List.cons.inj (List.cons.inj onward).2).1
      simp [reached, same] at early

theorem run_cutShort (host : Host σ) (workload : Workload) (record : Record) (runner : Runner)
    (state : σ) {before after : List Event} {call : Call} {cause : CallError}
    (split : ((Runner.run workload record runner).execute host state).history =
      before ++ .called call (.error cause) :: after)
    (missing : cause.isUnlaunchable = true) (early : .noted .drained ∉ before) :
    ((Event.calls after).map (·.1)).Sublist
      ((Event.cleanup runner.cleanup before).pending.reverse.map (·.call runner.site)) := by
  obtain ⟨works, -⟩ := attempt_advances host workload record runner state
  by_cases broke : ((Runner.attempt workload record runner).execute host state).value.1 = .ok none
  · rw [(Runner.run_execute_broken host broke).2] at split
    obtain ⟨fault, value, -⟩ := attempt_halts split missing
    rw [value] at broke
    cases broke
  · obtain ⟨stage, last, -, history, stages⟩ := Runner.run_execute host broke
    obtain ⟨-, -, calls⟩ := tearDown_log host
      (((Runner.attempt workload record runner).execute host state).value.2.into stage)
      ((Runner.attempt workload record runner).execute host state).host
    obtain ⟨rest, drained⟩ := Runner.tearDown_drains host
      (((Runner.attempt workload record runner).execute host state).value.2.into stage)
      ((Runner.attempt workload record runner).execute host state).host
    rw [history, drained, List.cons_append] at split
    rw [drained] at calls
    -- The tool was missed before the note of draining, so in the attempt.
    obtain ⟨middle, within, rfl⟩ := split_before_notes split early
    obtain ⟨fault, -, -, quiet, cleanup⟩ := attempt_halts within missing
    have left : Event.calls (middle ++ .noted (.entered stage) :: .noted .drained ::
        (rest ++ last)) = Event.calls rest := by
      rw [Event.calls_append, quiet, List.nil_append, Event.calls, Event.calls,
        Event.calls_append, Event.calls_stages stages, List.append_nil]
    rw [left, cleanup, ← works.site_eq]
    exact calls

theorem run_unlaunched (host : Host σ) (workload : Workload) (record : Record) (runner : Runner)
    (state : σ) {event : Event}
    (mem : event ∈ ((Runner.run workload record runner).execute host state).history)
    (missing : event.unlaunched = true) :
    event ∈ ((Runner.attempt workload record runner).execute host state).history ∨
      Event.failures ((Runner.run workload record runner).execute host state).history ≠ [] := by
  obtain ⟨-, advances⟩ := attempt_advances host workload record runner state
  by_cases broke : ((Runner.attempt workload record runner).execute host state).value.1 = .ok none
  · rw [(Runner.run_execute_broken host broke).2] at mem
    exact .inl mem
  · obtain ⟨stage, last, -, history, stages⟩ := Runner.run_execute host broke
    rw [history, Event.failures_around advances.idle stages]
    rw [history, List.mem_append, List.mem_cons, List.mem_append] at mem
    rcases mem with mem | rfl | mem | mem
    · exact .inl mem
    · cases missing
    · exact .inr ((tearDown_log host _ _).2.1 event mem missing)
    · obtain ⟨_, rfl⟩ := stages event mem
      cases missing

theorem run_reported (host : Host σ) (workload : Workload) (record : Record) (runner : Runner)
    (state : σ)
    (failed :
      Event.failures ((Runner.run workload record runner).execute host state).history ≠ []) :
    ∃ fault ∈ Event.failures ((Runner.run workload record runner).execute host state).history,
      ∃ measurement, ((Runner.run workload record runner).execute host state).value.1 =
        .fatal fault measurement := by
  have value := run_value host workload record runner state
  obtain ⟨-, advances⟩ := attempt_advances host workload record runner state
  have unbroken :
      ((Runner.attempt workload record runner).execute host state).value.1 ≠ .ok none := by
    intro broke
    rw [(Runner.run_execute_broken host broke).2, Event.failures_idle advances.idle] at failed
    exact failed rfl
  cases reported : verdict (Event.failures
      ((Runner.run workload record runner).execute host state).history) with
  | ok _ => exact absurd (verdict_ok reported) failed
  | error fault =>
    rw [reported] at value
    obtain ⟨measurement, fatal⟩ := RunEnd.ofPhases_error unbroken
    exact ⟨fault, verdict_error reported, measurement, value.trans fatal⟩

/-- On every host the end of a run is explained by its attempt and by its history. The attempt is
what comes before the unwinding: the preparation, the launch of the workload and the look of its
hook at the output. Its verdict is the one that a run which is completed, has failed or survived a
failed unwinding is told by. -/
theorem run_explained (host : Host σ) (workload : Workload) (record : Record) (runner : Runner)
    (state : σ) :
    RunEnd.Explained runner ((Runner.attempt workload record runner).execute host state)
      ((Runner.run workload record runner).execute host state) := by
  have value := run_value host workload record runner state
  have ok : ∀ faults, verdict faults = .ok () ↔ faults = [] := fun faults =>
    ⟨verdict_ok, fun none => none ▸ rfl⟩
  refine ⟨?_, fun before call cause after split missing early => ⟨?_, ?_⟩, ?_, ?_, ?_, ?_⟩
  · intro event mem missing
    rcases run_unlaunched host workload record runner state mem missing with mem | failed
    · obtain ⟨before, after, split⟩ := List.append_of_mem mem
      obtain ⟨fault, same, fatal, -⟩ := attempt_halts split missing
      rw [value, same]
      exact RunEnd.ofPhases_fatal fatal _
    · obtain ⟨fault, -, fatal⟩ := run_reported host workload record runner state failed
      exact ⟨fault, fatal⟩
  · exact run_cutShort host workload record runner state split missing early
  · intro scope invocation reply mem
    have carried := (run_cutShort host workload record runner state split missing early).subset
      (List.mem_map_of_mem (Event.mem_calls mem))
    obtain ⟨reversal, -, same⟩ := List.mem_map.mp carried
    -- No reversal is carried out by a launch.
    cases reversal <;> cases same
  · intro measurement
    rw [value, RunEnd.ofPhases_eq_completed, ok]
  · intro fault
    rw [value, RunEnd.ofPhases_eq_failed, ok]
  · intro measurement
    rw [value, RunEnd.ofPhases_eq_fatal_some, ne_eq, ok]
  · exact run_reported host workload record runner state

end
end CgroupBench
