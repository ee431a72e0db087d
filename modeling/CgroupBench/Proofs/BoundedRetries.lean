import CgroupBench.Proofs.FaithfulHost

/-!
# Creating a cgroup with bounded retries

A cgroup is created by one deletion, by creations until one of them decides, and by writes of the
limit until one of them decides. A reply decides if the call worked or if its tool is missing; the
last of the attempts that are allowed decides too. What comes out is told by the three replies that
decided alone, so failures that a later success made good leave no trace in it: the log without them
is the log of a creation with the same outcome.
-/
namespace CgroupBench

variable {σ ρ α β : Type}

/-- A call with its reply. -/
abbrev Exchange : Type :=
  (call : Call) × call.Reply

/-- The call worked, or its tool is missing: it is not made again. -/
def decides : Except CallError α → Bool
  | .ok _ => true
  | .error cause => cause.isUnlaunchable

/-- The replies to a call that is made until one of them decides, at most this often. -/
structure Persists (most : Nat) (earlier : List (Except CallError α)) (last : Except CallError α) :
    Prop where
  again : ∀ reply ∈ earlier, decides reply = false
  ends : decides last = true ∨ earlier.length + 1 = most
  fits : earlier.length < most

/-- One call with reply after reply. -/
def exchanges (call : Call) (replies : List call.Reply) : List Exchange :=
  replies.map (⟨call, ·⟩)

/-- This call was made and worked. -/
def Exchange.works (call : Call) (entry : Exchange) : Bool :=
  entry.1 == call && entry.2.isOk

/-- This call was made and failed. -/
def Exchange.fails (call : Call) (entry : Exchange) : Bool :=
  entry.1 == call && !entry.2.isOk

/-- The log without the failures of a call that worked as well. -/
def overcome (call : Call) (log : List Exchange) : List Exchange :=
  if log.any (Exchange.works call) then log.filter fun entry => !entry.fails call else log

/-! ## Calls that are made again -/

theorem Persists.nil {most : Nat} {last : Except CallError α} (decided : decides last = true) :
    Persists (most + 1) [] last where
  again _ mem := absurd mem List.not_mem_nil
  ends := .inl decided
  fits := most.succ_pos

theorem Persists.cons {most : Nat} {first last : Except CallError α}
    {earlier : List (Except CallError α)} (undecided : decides first = false)
    (rest : Persists most earlier last) : Persists (most + 1) (first :: earlier) last where
  again := List.forall_mem_cons.2 ⟨undecided, rest.again⟩
  ends := rest.ends.imp_right (congrArg (· + 1))
  fits := Nat.succ_lt_succ rest.fits

theorem Persists.tail {most : Nat} {first last : Except CallError α}
    {earlier : List (Except CallError α)} (h : Persists (most + 1) (first :: earlier) last) :
    Persists most earlier last where
  again := (List.forall_mem_cons.1 h.again).2
  ends := h.ends.imp_right Nat.succ.inj
  fits := Nat.lt_of_succ_lt_succ h.fits

section Attempt

variable {host : Host σ} {call : Call} {state next : σ} {reply : call.Reply}

theorem attempt_succ (call : Call) (retries : Nat) :
    Cgroups.attempt (.ask call .finish) (retries + 1) = .ask call fun reply =>
      if decides reply then .finish reply else Cgroups.attempt (.ask call .finish) retries := by
  show Procedure.ask _ _ = _
  congr
  funext reply
  rcases reply with cause | value
  · rfl
  · rfl

theorem attempt_decided (answered : host.answer state call = (reply, next)) (retries : Nat)
    (decided : decides reply = true) :
    (Cgroups.attempt (.ask call .finish) (retries + 1)).execute host state =
      ⟨reply, next, [.called call reply]⟩ := by
  simp only [attempt_succ, Procedure.execute, answered, decided, if_true]

theorem attempt_undecided (answered : host.answer state call = (reply, next)) (retries : Nat)
    (undecided : decides reply = false) :
    (Cgroups.attempt (.ask call .finish) (retries + 1)).execute host state =
      let rest := (Cgroups.attempt (.ask call .finish) retries).execute host next
      { rest with history := .called call reply :: rest.history } := by
  simp only [attempt_succ, Procedure.execute, answered, undecided, Bool.false_eq_true, if_false]

/-- On every host the call is made until it is decided, and the last reply is what comes out. -/
theorem attempt_execute (host : Host σ) (call : Call) (retries : Nat) (state : σ) :
    ∃ earlier last after, Persists (retries + 1) earlier last ∧
      (Cgroups.attempt (.ask call .finish) retries).execute host state =
        ⟨last, after, (earlier ++ [last]).map (.called call)⟩ := by
  -- on the retries that are left, from whatever state the failures so far have led to
  induction retries generalizing state with
  | zero => exact ⟨[], _, _, ⟨nofun, .inr rfl, Nat.zero_lt_one⟩, rfl⟩
  | succ retries ih =>
    rcases answered : host.answer state call with ⟨reply, next⟩
    cases decided : decides reply with
    | true => exact ⟨[], _, _, .nil decided, attempt_decided answered retries decided⟩
    | false =>
      obtain ⟨earlier, last, after, persists, later⟩ := ih next
      refine ⟨reply :: earlier, last, after, persists.cons decided, ?_⟩
      rw [attempt_undecided answered retries decided, later]
      rfl

end Attempt

/-! ## Recorded logs -/

/-- A host that answers as a log has it, as long as it is asked what was asked there. -/
def Host.recorded : Host (List Exchange) where
  answer
  | [], _ => (.error (.access "answer" "" (.described "the log has ended")), [])
  | ⟨asked, reply⟩ :: rest, call =>
    if same : asked = call then (same ▸ reply, rest)
    else (.error (.access "answer" "" (.described "the log goes on otherwise")), rest)

theorem Host.recorded_answer (call : Call) (reply : call.Reply) (rest : List Exchange) :
    Host.recorded.answer (⟨call, reply⟩ :: rest) call = (reply, rest) :=
  dif_pos rfl

/-- Replies that are recorded so are given so. -/
theorem attempt_recorded {call : Call} {retries : Nat} {earlier : List call.Reply}
    {last : call.Reply} (persists : Persists (retries + 1) earlier last) (rest : List Exchange) :
    (Cgroups.attempt (.ask call .finish) retries).execute Host.recorded
        (exchanges call (earlier ++ [last]) ++ rest) =
      ⟨last, rest, (earlier ++ [last]).map (.called call)⟩ := by
  induction retries generalizing earlier with
  | zero =>
    obtain rfl : earlier = [] := List.length_eq_zero_iff.1 (Nat.lt_one_iff.1 persists.fits)
    show (Procedure.ask call .finish).execute _ (⟨call, last⟩ :: rest) = _
    rw [Procedure.execute, Host.recorded_answer]
    rfl
  | succ retries ih =>
    cases earlier with
    | nil =>
      have decided : decides last = true :=
        persists.ends.resolve_right fun bare => absurd bare (by simp)
      exact attempt_decided (Host.recorded_answer call last rest) retries decided
    | cons first earlier =>
      have undecided : decides first = false := persists.again first (.head _)
      have fewer : Persists (retries + 1) earlier last := persists.tail
      calc _ = _ := attempt_undecided (Host.recorded_answer call first _) retries undecided
        _ = _ := congrArg (fun later : Execution _ _ =>
          { later with history := .called call first :: later.history }) (ih fewer)

/-! ## Creations -/

namespace Cgroups

/-- The deletion worked, or its error says that there was nothing to delete. -/
def Clears (reply : Except CallError Output) : Prop :=
  ∀ cause, reply = .error cause → cause.saysAbsent = true

abbrev deletion (variant : Variant) : Call :=
  .run (deleteArgv variant)

abbrev creation (variant : Variant) : Call :=
  .run (createArgv variant)

abbrev limiting (cgroups : Cgroups) (variant : Variant) (memoryLimit : UInt64) : Call :=
  .write (cgroups.limitPath variant) s!"{memoryLimit.toNat}\n"

/-- The logs of a creation with their outcomes, one constructor for each step that can be the last
one. -/
inductive Creation (cgroups : Cgroups) (variant : Variant) (memoryLimit : UInt64) :
    List Exchange → Except Fault Boundary → Prop where
  | uncleared {cause : CallError} : cause.saysAbsent = false →
      Creation cgroups variant memoryLimit [⟨deletion variant, .error cause⟩]
        (.error (.ofSetup s!"clear stale {variant.label}" cause))
  | uncreated {cleared : (deletion variant).Reply} {failures : List (creation variant).Reply}
      {cause : CallError} : Clears cleared → Persists cgroups.attempts failures (.error cause) →
      Creation cgroups variant memoryLimit
        (⟨deletion variant, cleared⟩ :: exchanges (creation variant) (failures ++ [.error cause]))
        (.error (.ofSetup s!"create {variant.label}" cause))
  | unlimited {cleared : (deletion variant).Reply} {failures : List (creation variant).Reply}
      {output : Output} {refusals : List (limiting cgroups variant memoryLimit).Reply}
      {cause : CallError} : Clears cleared → Persists cgroups.attempts failures (.ok output) →
      Persists cgroups.attempts refusals (.error cause) →
      Creation cgroups variant memoryLimit
        (⟨deletion variant, cleared⟩ :: (exchanges (creation variant) (failures ++ [.ok output]) ++
          exchanges (limiting cgroups variant memoryLimit) (refusals ++ [.error cause])))
        (.error (.ofSetup s!"limit {variant.label}" cause))
  | created {cleared : (deletion variant).Reply} {failures : List (creation variant).Reply}
      {output : Output} {refusals : List (limiting cgroups variant memoryLimit).Reply} :
      Clears cleared → Persists cgroups.attempts failures (.ok output) →
      Persists cgroups.attempts refusals (.ok ()) →
      Creation cgroups variant memoryLimit
        (⟨deletion variant, cleared⟩ :: (exchanges (creation variant) (failures ++ [.ok output]) ++
          exchanges (limiting cgroups variant memoryLimit) (refusals ++ [.ok ()])))
        (.ok { variant, memoryLimit, optimizerAttached := false })

end Cgroups

section Setup

variable {what : String} {procedure : Procedure (Except CallError α)} {next : α → Step ρ β}
  {runner : ρ} {host : Host σ} {state after final : σ} {history later : List Event}

theorem setup_bind_ok {value : α} {result : Except Fault β × ρ}
    (worked : procedure.execute host state = ⟨.ok value, after, history⟩)
    (rest : (next value runner).execute host after = ⟨result, final, later⟩) :
    ((Step.setup what procedure >>= next) runner).execute host state =
      ⟨result, final, history ++ later⟩ := by
  show ((procedure >>= _) >>= _ : Procedure _).execute host state = _
  simp only [bind_assoc, Procedure.execute_bind, worked, pure_bind, rest]

theorem setup_bind_error {cause : CallError}
    (failed : procedure.execute host state = ⟨.error cause, after, history⟩) :
    ((Step.setup what procedure >>= next) runner).execute host state =
      ⟨(.error (.ofSetup what cause), runner), after, history⟩ := by
  show ((procedure >>= _) >>= _ : Procedure _).execute host state = _
  simp only [bind_assoc, Procedure.execute_bind, failed, pure_bind, Procedure.execute_pure,
    List.append_nil]

end Setup

theorem Event.calls_called (call : Call) (replies : List call.Reply) :
    calls (replies.map (called call)) = exchanges call replies := by
  induction replies with
  | nil => rfl
  | cons reply rest ih => exact congrArg (_ :: ·) ih

namespace Cgroups

variable {cgroups : Cgroups} {variant : Variant} {memoryLimit : UInt64} {log : List Exchange}
  {result : Except Fault Boundary}

theorem tolerateAbsent_eq_ok {reply : Except CallError Output} :
    tolerateAbsent reply = .ok () ↔ Clears reply := by
  rcases reply with cause | output
  · rw [tolerateAbsent_error]
    cases absent : cause.saysAbsent <;> simp [Clears, absent]
  · simp [tolerateAbsent, Clears]

theorem tolerateAbsent_eq_error {reply : Except CallError Output} {cause : CallError} :
    tolerateAbsent reply = .error cause ↔ reply = .error cause ∧ cause.saysAbsent = false := by
  rcases reply with other | output
  · rw [tolerateAbsent_error]
    cases absent : other.saysAbsent <;> grind
  · simp [tolerateAbsent]

theorem delete_execute {host : Host σ} {state next : σ} {reply : (deletion variant).Reply}
    (answered : host.answer state (deletion variant) = (reply, next)) :
    (delete variant).execute host state =
      ⟨tolerateAbsent reply, next, [.called (deletion variant) reply]⟩ := by
  show (Procedure.ask (deletion variant) fun reply =>
    .finish (tolerateAbsent reply)).execute host state = _
  simp only [Procedure.execute, answered]

section Ways

variable {runner : ρ} {host : Host σ} {state cleared made limited : σ}
  {first second third : List Event} {cause : CallError} {output : Output}

/-! The four ways of a creation, by what its steps come to. -/

theorem create_uncleared
    (failed : (delete variant).execute host state = ⟨.error cause, cleared, first⟩) :
    (cgroups.create variant memoryLimit runner).execute host state =
      ⟨(.error (.ofSetup s!"clear stale {variant.label}" cause), runner), cleared, first⟩ :=
  setup_bind_error failed

variable (deleted : (delete variant).execute host state = ⟨.ok (), cleared, first⟩)
include deleted

theorem create_uncreated
    (failed : (attempt (.ask (creation variant) .finish) cgroups.retries).execute host cleared =
      ⟨.error cause, made, second⟩) :
    (cgroups.create variant memoryLimit runner).execute host state =
      ⟨(.error (.ofSetup s!"create {variant.label}" cause), runner), made, first ++ second⟩ :=
  setup_bind_ok deleted (setup_bind_error failed)

variable (created : (attempt (.ask (creation variant) .finish) cgroups.retries).execute host
  cleared = ⟨.ok output, made, second⟩)
include created

theorem create_unlimited
    (failed : (attempt (.ask (limiting cgroups variant memoryLimit) .finish)
      cgroups.retries).execute host made = ⟨.error cause, limited, third⟩) :
    (cgroups.create variant memoryLimit runner).execute host state =
      ⟨(.error (.ofSetup s!"limit {variant.label}" cause), runner), limited,
        first ++ (second ++ third)⟩ :=
  setup_bind_ok deleted (setup_bind_ok created (setup_bind_error failed))

theorem create_created
    (done : (attempt (.ask (limiting cgroups variant memoryLimit) .finish)
      cgroups.retries).execute host made = ⟨.ok (), limited, third⟩) :
    (cgroups.create variant memoryLimit runner).execute host state =
      ⟨(.ok { variant, memoryLimit, optimizerAttached := false }, runner), limited,
        first ++ (second ++ third)⟩ := by
  rw [← List.append_nil third]
  exact setup_bind_ok deleted (setup_bind_ok created (setup_bind_ok done rfl))

end Ways

section Calls

variable (cleared : (deletion variant).Reply) (creations : List (creation variant).Reply)
  (writes : List (limiting cgroups variant memoryLimit).Reply)

theorem calls_uncreated :
    Event.calls ([.called (deletion variant) cleared] ++
        creations.map (.called (creation variant))) =
      ⟨deletion variant, cleared⟩ :: exchanges (creation variant) creations :=
  congrArg (_ :: ·) (Event.calls_called (creation variant) creations)

theorem calls_limited :
    Event.calls ([.called (deletion variant) cleared] ++
        (creations.map (.called (creation variant)) ++
          writes.map (.called (limiting cgroups variant memoryLimit)))) =
      ⟨deletion variant, cleared⟩ :: (exchanges (creation variant) creations ++
        exchanges (limiting cgroups variant memoryLimit) writes) := by
  have made := Event.calls_called (creation variant) creations
  have limited := Event.calls_called (limiting cgroups variant memoryLimit) writes
  rw [Event.calls_append, Event.calls_append, made, limited]
  rfl

end Calls

/-- Whatever the host answers, a creation goes one of the four ways. -/
theorem create_execute (cgroups : Cgroups) (variant : Variant) (memoryLimit : UInt64)
    (host : Host σ) (state : σ) (runner : ρ) :
    let run := (cgroups.create variant memoryLimit runner).execute host state
    Creation cgroups variant memoryLimit (Event.calls run.history) run.value.1 ∧
      run.value.2 = runner := by
  intro run
  rcases answered : host.answer state (deletion variant) with ⟨cleared, next⟩
  have deleted := delete_execute answered
  cases tolerated : tolerateAbsent cleared with
  | error cause =>
    obtain ⟨rfl, absent⟩ := tolerateAbsent_eq_error.1 tolerated
    rw [tolerated] at deleted
    have whole : run = _ := create_uncleared deleted
    rw [whole]
    exact ⟨.uncleared absent, rfl⟩
  | ok _ =>
    have clears := tolerateAbsent_eq_ok.1 tolerated
    rw [tolerated] at deleted
    obtain ⟨failures, reply, made, creates, created⟩ :=
      attempt_execute host (creation variant) cgroups.retries next
    rcases reply with cause | output
    · have whole : run = _ := create_uncreated deleted created
      rw [whole, calls_uncreated]
      exact ⟨.uncreated clears creates, rfl⟩
    obtain ⟨refusals, reply, limited, limits, done⟩ :=
      attempt_execute host (limiting cgroups variant memoryLimit) cgroups.retries made
    rcases reply with cause | _
    · have whole : run = _ := create_unlimited deleted created done
      rw [whole, calls_limited]
      exact ⟨.unlimited clears creates limits, rfl⟩
    · have whole : run = _ := create_created deleted created done
      rw [whole, calls_limited]
      exact ⟨.created clears creates limits, rfl⟩

theorem delete_recorded {cleared : (deletion variant).Reply} (clears : Clears cleared)
    (rest : List Exchange) :
    (delete variant).execute Host.recorded (⟨deletion variant, cleared⟩ :: rest) =
      ⟨.ok (), rest, [.called (deletion variant) cleared]⟩ := by
  rw [delete_execute (Host.recorded_answer (deletion variant) cleared rest),
    tolerateAbsent_eq_ok.2 clears]

/-- A log of one of the four ways is followed on a host that answers as it has it. -/
theorem Creation.recorded (way : Creation cgroups variant memoryLimit log result) (runner : ρ) :
    let run := (cgroups.create variant memoryLimit runner).execute Host.recorded log
    Event.calls run.history = log ∧ run.value = (result, runner) := by
  intro run
  cases way with
  | @uncleared cause absent =>
    have deleted := delete_execute (Host.recorded_answer (deletion variant) (.error cause) [])
    rw [tolerateAbsent_eq_error.2 ⟨rfl, absent⟩] at deleted
    have whole : run = _ := create_uncleared deleted
    rw [whole]
    exact ⟨rfl, rfl⟩
  | uncreated clears creates =>
    have created := attempt_recorded creates []
    rw [List.append_nil] at created
    have whole : run = _ := create_uncreated (delete_recorded clears _) created
    rw [whole, calls_uncreated]
    exact ⟨rfl, rfl⟩
  | unlimited clears creates limits =>
    have limited := attempt_recorded limits []
    rw [List.append_nil] at limited
    have whole : run = _ :=
      create_unlimited (delete_recorded clears _) (attempt_recorded creates _) limited
    rw [whole, calls_limited]
    exact ⟨rfl, rfl⟩
  | created clears creates limits =>
    have limited := attempt_recorded limits []
    rw [List.append_nil] at limited
    have whole : run = _ :=
      create_created (delete_recorded clears _) (attempt_recorded creates _) limited
    rw [whole, calls_limited]
    exact ⟨rfl, rfl⟩

end Cgroups

/-! ## Failures made good -/

section Overcome

variable {call : Call} {log : List Exchange}

theorem mem_exchanges {replies : List call.Reply} {entry : Exchange} :
    entry ∈ exchanges call replies ↔ ∃ reply ∈ replies, ⟨call, reply⟩ = entry :=
  List.mem_map

theorem fst_of_mem_exchanges {replies : List call.Reply} {entry : Exchange}
    (mem : entry ∈ exchanges call replies) : entry.1 = call := by
  obtain ⟨reply, -, rfl⟩ := mem_exchanges.1 mem
  rfl

theorem fst_ne_of_mem_exchanges {other : Call} (apart : call ≠ other) (replies : List call.Reply) :
    ∀ entry ∈ exchanges call replies, entry.1 ≠ other := by
  intro entry mem
  rwa [fst_of_mem_exchanges mem]

theorem mem_exchanges_self {replies : List call.Reply} {reply : call.Reply} :
    ⟨call, reply⟩ ∈ exchanges call replies ↔ reply ∈ replies := by
  rw [mem_exchanges]
  constructor
  · rintro ⟨other, listed, same⟩
    cases same
    exact listed
  · intro listed
    exact ⟨reply, listed, rfl⟩

theorem any_works_absent (absent : ∀ entry ∈ log, entry.1 ≠ call) :
    log.any (Exchange.works call) = false := by
  simp only [List.any_eq_false, Exchange.works, Bool.and_eq_true, beq_iff_eq, not_and]
  exact fun entry mem same => absurd same (absent entry mem)

theorem filter_fails_absent (absent : ∀ entry ∈ log, entry.1 ≠ call) :
    (log.filter fun entry => !entry.fails call) = log := by
  simp only [List.filter_eq_self, Exchange.fails, Bool.not_eq_true', Bool.and_eq_false_imp,
    beq_iff_eq]
  exact fun entry mem same => absurd same (absent entry mem)

theorem overcome_absent (absent : ∀ entry ∈ log, entry.1 ≠ call) : overcome call log = log := by
  unfold overcome
  rw [any_works_absent absent]
  rfl

/-- Parts of a log without a common call are looked at one by one. -/
theorem overcome_append {rest : List Exchange}
    (apart : ∀ first ∈ log, ∀ second ∈ rest, first.1 ≠ second.1) :
    overcome call (log ++ rest) = overcome call log ++ overcome call rest := by
  -- the call was made in one of the two parts at most
  by_cases absent : ∀ entry ∈ log, entry.1 ≠ call
  · rw [overcome_absent absent]
    unfold overcome
    rw [List.any_append, any_works_absent absent, Bool.false_or, List.filter_append,
      filter_fails_absent absent]
    split <;> rfl
  · obtain ⟨first, mem, rfl⟩ : ∃ first ∈ log, first.1 = call := by simpa using absent
    have others : ∀ entry ∈ rest, entry.1 ≠ first.1 := fun entry listed same =>
      apart first mem entry listed same.symm
    rw [overcome_absent others]
    unfold overcome
    rw [List.any_append, any_works_absent others, Bool.or_false, List.filter_append,
      filter_fails_absent others]
    split <;> rfl

theorem overcome_singleton (entry : Exchange) : overcome call [entry] = [entry] := by
  unfold overcome
  split
  next worked =>
    have good : entry.works call = true := by simpa using worked
    have kept : entry.fails call = false := by
      simp only [Exchange.works, Bool.and_eq_true] at good
      simp only [Exchange.fails, good, Bool.not_true, Bool.and_false]
    simp only [List.filter_cons, kept, Bool.not_false, if_true, List.filter_nil]
  next => rfl

theorem works_self (reply : call.Reply) : Exchange.works call ⟨call, reply⟩ = reply.isOk := by
  simp [Exchange.works]

theorem fails_self (reply : call.Reply) : Exchange.fails call ⟨call, reply⟩ = !reply.isOk := by
  simp [Exchange.fails]

theorem isOk_eq_false {reply : Except CallError α} (undecided : decides reply = false) :
    reply.isOk = false := by
  cases reply with
  | ok value => cases undecided
  | error cause => rfl

variable {most : Nat} {earlier : List call.Reply}

theorem Persists.fails_earlier {last : Except CallError call.Answer}
    (persists : Persists most earlier last) :
    ∀ entry ∈ exchanges call earlier, entry.works call = false ∧ entry.fails call = true := by
  intro entry mem
  obtain ⟨reply, listed, rfl⟩ := mem_exchanges.1 mem
  have failed : reply.isOk = false := isOk_eq_false (persists.again reply listed)
  rw [works_self, fails_self, failed]
  exact ⟨rfl, rfl⟩

theorem exchanges_concat (earlier : List call.Reply) (last : call.Reply) :
    exchanges call (earlier ++ [last]) = exchanges call earlier ++ [⟨call, last⟩] :=
  List.map_append

/-- Repeated calls that end in a success leave just that. -/
theorem Persists.overcome_ok {value : call.Answer} (persists : Persists most earlier (.ok value)) :
    overcome call (exchanges call (earlier ++ [.ok value])) = [⟨call, .ok value⟩] := by
  have gone : (exchanges call earlier).filter (fun entry => !entry.fails call) = [] := by
    rw [List.filter_eq_nil_iff]
    intro entry mem
    rw [(persists.fails_earlier entry mem).2]
    exact Bool.false_ne_true
  have good : Exchange.works call ⟨call, .ok value⟩ = true := works_self _
  have kept : Exchange.fails call ⟨call, .ok value⟩ = false := fails_self _
  rw [exchanges_concat, overcome, List.any_append, List.filter_append, gone]
  simp [good, kept]

/-- Repeated calls that end in a failure all stay. -/
theorem Persists.overcome_error {cause : CallError}
    (persists : Persists most earlier (.error cause)) :
    overcome call (exchanges call (earlier ++ [.error cause])) =
      exchanges call (earlier ++ [.error cause]) := by
  have none : (exchanges call earlier).any (Exchange.works call) = false := by
    rw [List.any_eq_false]
    intro entry mem
    rw [(persists.fails_earlier entry mem).1]
    exact Bool.false_ne_true
  have bad : Exchange.works call ⟨call, .error cause⟩ = false := works_self _
  rw [exchanges_concat, overcome, List.any_append, none]
  simp [bad]

end Overcome

theorem Persists.at_once {most : Nat} {earlier : List (Except CallError α)} {value : α}
    (persists : Persists most earlier (.ok value)) : Persists most [] (.ok value) where
  again _ mem := absurd mem List.not_mem_nil
  ends := .inl rfl
  fits := Nat.zero_lt_of_lt persists.fits

theorem Persists.ok_not_mem {most : Nat} {earlier : List (Except CallError α)} {cause : CallError}
    (persists : Persists most earlier (.error cause)) (value : α) :
    .ok value ∉ earlier ++ [.error cause] := by
  intro mem
  rcases List.mem_append.1 mem with before | last
  · cases persists.again _ before
  · cases List.mem_singleton.1 last

theorem Persists.length_le {most : Nat} {earlier : List (Except CallError α)}
    {last : Except CallError α} (persists : Persists most earlier last) :
    (earlier ++ [last]).length ≤ most := by
  rw [List.length_append]
  exact persists.fits

theorem length_exchanges (call : Call) (replies : List call.Reply) :
    (exchanges call replies).length = replies.length :=
  List.length_map _

theorem Persists.smoothed {most : Nat} {made : Call} {earlier : List made.Reply}
    {last : made.Reply} (persists : Persists most earlier last) (call : Call) :
    ∃ fewer, overcome call (exchanges made (earlier ++ [last])) = exchanges made (fewer ++ [last]) ∧
      Persists most fewer last := by
  by_cases same : made = call
  · subst same
    cases last with
    | error cause => exact ⟨earlier, persists.overcome_error, persists⟩
    | ok value => exact ⟨[], persists.overcome_ok, persists.at_once⟩
  · exact ⟨earlier, overcome_absent (fst_ne_of_mem_exchanges same _), persists⟩

namespace Cgroups

variable {cgroups : Cgroups} {variant : Variant} {memoryLimit : UInt64} {log : List Exchange}
  {result : Except Fault Boundary}

theorem creation_ne_deletion : creation variant ≠ deletion variant := by
  simp [deletion, creation, deleteArgv, createArgv]

theorem limiting_ne_deletion : limiting cgroups variant memoryLimit ≠ deletion variant :=
  nofun

theorem overcome_cleared {call : Call} {cleared : (deletion variant).Reply} {rest : List Exchange}
    (others : ∀ entry ∈ rest, entry.1 ≠ deletion variant) :
    overcome call (⟨deletion variant, cleared⟩ :: rest) =
      ⟨deletion variant, cleared⟩ :: overcome call rest := by
  have apart : overcome call ([⟨deletion variant, cleared⟩] ++ rest) = _ :=
    overcome_append fun first mem second listed => by
      obtain rfl := List.mem_singleton.1 mem
      exact (others second listed).symm
  rwa [overcome_singleton] at apart

theorem overcome_limited {call : Call} {cleared : (deletion variant).Reply}
    (creations : List (creation variant).Reply)
    (writes : List (limiting cgroups variant memoryLimit).Reply) :
    overcome call (⟨deletion variant, cleared⟩ :: (exchanges (creation variant) creations ++
        exchanges (limiting cgroups variant memoryLimit) writes)) =
      ⟨deletion variant, cleared⟩ :: (overcome call (exchanges (creation variant) creations) ++
        overcome call (exchanges (limiting cgroups variant memoryLimit) writes)) := by
  rw [overcome_cleared, overcome_append]
  · intro first mem second listed
    rw [fst_of_mem_exchanges mem, fst_of_mem_exchanges listed]
    exact nofun
  · intro entry mem
    rcases List.mem_append.1 mem with made | limited
    · exact fst_ne_of_mem_exchanges creation_ne_deletion creations entry made
    · exact fst_ne_of_mem_exchanges limiting_ne_deletion writes entry limited

/-- Without failures that were made good, a creation goes the way it went. -/
theorem Creation.smoothed (way : Creation cgroups variant memoryLimit log result) (call : Call) :
    Creation cgroups variant memoryLimit (overcome call log) result := by
  cases way with
  | uncleared absent =>
    rw [overcome_singleton]
    exact .uncleared absent
  | uncreated clears creates =>
    obtain ⟨fewer, creations, persists⟩ := creates.smoothed call
    rw [overcome_cleared (fst_ne_of_mem_exchanges creation_ne_deletion _), creations]
    exact .uncreated clears persists
  | unlimited clears creates limits =>
    obtain ⟨fewer, creations, persists⟩ := creates.smoothed call
    obtain ⟨fewerWrites, writes, resists⟩ := limits.smoothed call
    rw [overcome_limited, creations, writes]
    exact .unlimited clears persists resists
  | created clears creates limits =>
    obtain ⟨fewer, creations, persists⟩ := creates.smoothed call
    obtain ⟨fewerWrites, writes, resists⟩ := limits.smoothed call
    rw [overcome_limited, creations, writes]
    exact .created clears persists resists

theorem creation_mem {cleared : (deletion variant).Reply}
    {replies : List (creation variant).Reply} {reply : (creation variant).Reply}
    (mem : ⟨creation variant, reply⟩ ∈
      (⟨deletion variant, cleared⟩ :: exchanges (creation variant) replies : List Exchange)) :
    reply ∈ replies := by
  rcases List.mem_cons.1 mem with first | later
  · exact absurd (congrArg Sigma.fst first) creation_ne_deletion
  · exact mem_exchanges_self.1 later

theorem limiting_mem {cleared : (deletion variant).Reply}
    {creations : List (creation variant).Reply}
    {writes : List (limiting cgroups variant memoryLimit).Reply}
    {reply : (limiting cgroups variant memoryLimit).Reply}
    (mem : ⟨limiting cgroups variant memoryLimit, reply⟩ ∈
      (⟨deletion variant, cleared⟩ :: (exchanges (creation variant) creations ++
        exchanges (limiting cgroups variant memoryLimit) writes) : List Exchange)) :
    reply ∈ writes := by
  rcases List.mem_cons.1 mem with first | later
  · cases congrArg Sigma.fst first
  rcases List.mem_append.1 later with made | limited
  · cases fst_of_mem_exchanges made
  · exact mem_exchanges_self.1 limited

/-- A creation gives the boundary it was asked for once all three steps have worked. -/
theorem Creation.ok_iff (way : Creation cgroups variant memoryLimit log result)
    (boundary : Boundary) :
    result = .ok boundary ↔ boundary = { variant, memoryLimit, optimizerAttached := false } ∧
      (∃ cleared, log.head? = some ⟨deletion variant, cleared⟩ ∧ Clears cleared) ∧
      (∃ output, ⟨creation variant, .ok output⟩ ∈ log) ∧
      ⟨limiting cgroups variant memoryLimit, .ok ()⟩ ∈ log := by
  cases way with
  | uncleared absent =>
    refine ⟨nofun, fun ⟨_, ⟨cleared, head, clears⟩, _⟩ => ?_⟩
    cases head
    exact absurd (clears _ rfl) (by simp [absent])
  | uncreated clears creates =>
    refine ⟨nofun, fun ⟨_, _, ⟨output, mem⟩, _⟩ => ?_⟩
    exact absurd (creation_mem mem) (creates.ok_not_mem output)
  | unlimited clears creates limits =>
    refine ⟨nofun, fun ⟨_, _, _, mem⟩ => ?_⟩
    exact absurd (limiting_mem mem) (limits.ok_not_mem ())
  | @created cleared failures output refusals clears creates limits =>
    have made : .ok output ∈ failures ++ [.ok output] := by simp
    have limited : .ok () ∈ refusals ++ [.ok ()] := by simp
    constructor
    · intro same
      refine ⟨(Except.ok.inj same).symm, ⟨cleared, rfl, clears⟩, ⟨output, ?_⟩, ?_⟩
      · exact .tail _ (List.mem_append_left _ (mem_exchanges_self.2 made))
      · exact .tail _ (List.mem_append_right _ (mem_exchanges_self.2 limited))
    · intro same
      rw [same.1]

/-- A fault of a creation is the error of its last call. -/
theorem Creation.last_of_error {fault : Fault}
    (way : Creation cgroups variant memoryLimit log (.error fault)) :
    ∃ call cause what, log.getLast? = some ⟨call, .error cause⟩ ∧
      fault = if cause.isUnlaunchable then .hostState what cause else .setup what cause := by
  cases way with
  | uncleared absent => exact ⟨_, _, _, rfl, rfl⟩
  | uncreated clears creates =>
    rw [exchanges_concat, ← List.cons_append]
    exact ⟨_, _, _, List.getLast?_concat, rfl⟩
  | unlimited clears creates limits =>
    rw [exchanges_concat _ (.error _), ← List.append_assoc, ← List.cons_append]
    exact ⟨_, _, _, List.getLast?_concat, rfl⟩

theorem Creation.length_le (way : Creation cgroups variant memoryLimit log result) :
    log.length ≤ 1 + 2 * cgroups.attempts := by
  cases way with
  | uncleared absent => exact Nat.le_add_right ..
  | uncreated clears creates =>
    have few := creates.length_le
    rw [List.length_cons, length_exchanges]
    omega
  | unlimited clears creates limits | created clears creates limits =>
    have few := creates.length_le
    have fewWrites := limits.length_le
    rw [List.length_cons, List.length_append, length_exchanges, length_exchanges]
    omega

/-- A creation deletes once, then creates until a reply decides, then writes the limit until a reply
decides, with as many attempts for each of these as are set. It gives what was asked for once all
three have worked and otherwise the error of its last call, and it would have given the same
without the failures that a success of the same call made good. -/
theorem create_retries (root : String) (attempts : Nat) (variant : Variant) (memoryLimit : UInt64)
    (host : Host σ) (state : σ) (runner : ρ) :
    let cgroups := ofAttempts root attempts
    let run := (cgroups.create variant memoryLimit runner).execute host state
    let log := Event.calls run.history
    cgroups.attempts = max attempts 1 ∧
      Creation cgroups variant memoryLimit log run.value.1 ∧ run.value.2 = runner ∧
      (∀ boundary, run.value.1 = .ok boundary ↔
        boundary = { variant, memoryLimit, optimizerAttached := false } ∧
          (∃ cleared, log.head? = some ⟨deletion variant, cleared⟩ ∧ Clears cleared) ∧
          (∃ output, ⟨creation variant, .ok output⟩ ∈ log) ∧
          ⟨limiting cgroups variant memoryLimit, .ok ()⟩ ∈ log) ∧
      (∀ fault, run.value.1 = .error fault →
        ∃ call cause what, log.getLast? = some ⟨call, .error cause⟩ ∧
          fault = if cause.isUnlaunchable then .hostState what cause else .setup what cause) ∧
      log.length ≤ 1 + 2 * max attempts 1 ∧
      ∀ call,
        let smooth := (cgroups.create variant memoryLimit runner).execute Host.recorded
          (overcome call log)
        Event.calls smooth.history = overcome call log ∧ smooth.value = run.value := by
  intro cgroups run log
  obtain ⟨way, same⟩ := create_execute cgroups variant memoryLimit host state runner
  have few : cgroups.attempts = max attempts 1 := by
    show attempts - 1 + 1 = _
    omega
  refine ⟨few, way, same, way.ok_iff, ?_, few ▸ way.length_le, ?_⟩
  · intro fault failed
    exact Creation.last_of_error (failed ▸ way)
  · intro call smooth
    obtain ⟨replayed, result⟩ := (way.smoothed call).recorded runner
    exact ⟨replayed, result.trans (Prod.ext rfl same.symm)⟩

end Cgroups

end CgroupBench
