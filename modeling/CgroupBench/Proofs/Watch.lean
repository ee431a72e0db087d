import CgroupBench.Step

/-!
# Watching an execution

A watch keeps an account of the events of an execution and says what has to be true of each
event, given the account so far and the host right after it. `Ensures` goes along the tree of
a procedure and asks for that at every event, and for a condition at the end. What it gives about
`execute` is stated by `Ensures.finished` for the end and by `Ensures.reached` for each point
on the way. Nothing is said about replies that the host in question never gives.
-/
namespace CgroupBench

variable {σ κ ρ τ α β : Type}

/-- An entry of two lists in a row is in the first or in the second. -/
theorem split_append {front back before after : List α} {entry : α}
    (split : front ++ back = before ++ entry :: after) :
    (∃ middle, front = before ++ entry :: middle ∧ after = middle ++ back) ∨
      ∃ middle, before = front ++ middle ∧ back = middle ++ entry :: after := by
  rcases List.append_eq_append_iff.mp split with ⟨middle, first, second⟩ | ⟨middle, first, second⟩
  · exact .inr ⟨middle, first, second⟩
  · cases middle with
    | nil => exact .inr ⟨[], by simpa using first.symm, second.symm⟩
    | cons other middle =>
      obtain ⟨rfl, rest⟩ := List.cons.inj second
      exact .inl ⟨middle, first, rest⟩

/-- The state of a host after it answered the calls of a history. -/
def Host.follow (host : Host σ) (state : σ) : List Event → σ
  | [] => state
  | .called call _ :: rest => host.follow (host.answer state call).2 rest
  | .noted _ :: rest => host.follow state rest

theorem Host.follow_append (host : Host σ) (state : σ) (first second : List Event) :
    host.follow state (first ++ second) = host.follow (host.follow state first) second := by
  induction first generalizing state with
  | nil => rfl
  | cons event rest ih => cases event <;> exact ih _

theorem Procedure.execute_host (host : Host σ) (procedure : Procedure α) (state : σ) :
    (procedure.execute host state).host =
      host.follow state (procedure.execute host state).history := by
  induction procedure generalizing state with
  | finish value => rfl
  | note note next ih => exact ih state
  | ask call next ih => exact ih _ _

/-- The replies of a history are those of the host. -/
theorem Procedure.answered {host : Host σ} {procedure : Procedure α} {state : σ}
    {before after : List Event} {call : Call} {reply : call.Reply}
    (split : (procedure.execute host state).history = before ++ .called call reply :: after) :
    (host.answer (host.follow state before) call).1 = reply := by
  induction procedure generalizing state before with
  | finish value => exact absurd split.symm (by simp [Procedure.execute])
  | note note next ih =>
    cases before with
    | nil => cases (List.cons.inj split).1
    | cons first before =>
      obtain ⟨rfl, rest⟩ := List.cons.inj split
      have found := ih rest
      exact found
  | ask asked next ih =>
    cases before with
    | nil =>
      obtain ⟨same, -⟩ := List.cons.inj split
      cases same
      rfl
    | cons first before =>
      obtain ⟨rfl, rest⟩ := List.cons.inj split
      have found := ih _ rest
      exact found

structure Watch (σ κ : Type) where
  host : Host σ
  enter : κ → Event → κ
  /-- Asked of each event, before it enters the account. -/
  point : κ → Event → σ → Prop

namespace Watch

/-- A watch whose account is the history itself. -/
def ofHistory (host : Host σ) (point : List Event → Event → σ → Prop) : Watch σ (List Event) :=
  ⟨host, fun history event => history ++ [event], point⟩

theorem foldl_ofHistory (host : Host σ) (point : List Event → Event → σ → Prop)
    (before history : List Event) :
    history.foldl (ofHistory host point).enter before = before ++ history := by
  induction history generalizing before with
  | nil => exact (List.append_nil before).symm
  | cons event rest ih =>
    rw [List.foldl_cons, ih, ofHistory, List.append_assoc]
    rfl

/-- Nothing is asked of any event, and nothing is kept. -/
def plain (host : Host σ) : Watch σ Unit :=
  ⟨host, fun _ _ => (), fun _ _ _ => True⟩

variable {watch : Watch σ κ} {account : κ} {state : σ}

def Ensures (watch : Watch σ κ) : Procedure α → κ → σ → (α → κ → σ → Prop) → Prop
  | .finish value, account, state, post => post value account state
  | .note note next, account, state, post =>
    watch.point account (.noted note) state ∧
      watch.Ensures next (watch.enter account (.noted note)) state post
  | .ask call next, account, state, post =>
    watch.point account (.called call (watch.host.answer state call).1)
        (watch.host.answer state call).2 ∧
      watch.Ensures (next (watch.host.answer state call).1)
        (watch.enter account (.called call (watch.host.answer state call).1))
        (watch.host.answer state call).2 post

namespace Ensures

theorem mono {procedure : Procedure α} {post post' : α → κ → σ → Prop}
    (h : watch.Ensures procedure account state post)
    (implied : ∀ value account state, post value account state → post' value account state) :
    watch.Ensures procedure account state post' := by
  induction procedure generalizing account state with
  | finish value => exact implied _ _ _ h
  | note note next ih => exact ⟨h.1, ih h.2⟩
  | ask call next ih => exact ⟨h.1, ih _ h.2⟩

theorem bind {first : Procedure α} {next : α → Procedure β} {post : β → κ → σ → Prop}
    (h : watch.Ensures first account state fun value account state =>
      watch.Ensures (next value) account state post) :
    watch.Ensures (first >>= next) account state post := by
  show watch.Ensures (first.bind next) account state post
  induction first generalizing account state with
  | finish value => exact h
  | note note rest ih => exact ⟨h.1, ih h.2⟩
  | ask call rest ih => exact ⟨h.1, ih _ h.2⟩

theorem plain (host : Host σ) (procedure : Procedure α) (state : σ) :
    (Watch.plain host).Ensures procedure () state fun _ _ _ => True := by
  induction procedure generalizing state with
  | finish value => trivial
  | note note next ih => exact ⟨trivial, ih state⟩
  | ask call next ih => exact ⟨trivial, ih _ _⟩

/-- The rule of a call, whatever the host answers. -/
theorem ask {call : Call} {post : call.Reply → κ → σ → Prop}
    (h : ∀ reply state', watch.host.answer state call = (reply, state') →
      watch.point account (.called call reply) state' ∧
        post reply (watch.enter account (.called call reply)) state') :
    watch.Ensures (.ask call .finish) account state post :=
  h _ _ rfl

/-- The rule of a call of which something is known, whatever it is. -/
theorem known {call : Call} {post : call.Reply → κ → σ → Prop} (fact : call.Reply → σ → Prop)
    (holds : fact (watch.host.answer state call).1 (watch.host.answer state call).2)
    (h : ∀ reply state', fact reply state' → watch.point account (.called call reply) state' ∧
      post reply (watch.enter account (.called call reply)) state') :
    watch.Ensures (.ask call .finish) account state post :=
  h _ _ holds

/-- The rule of composition, with a condition in between. -/
theorem andThen {first : Procedure α} {next : α → Procedure β} {middle : α → κ → σ → Prop}
    {post : β → κ → σ → Prop} (head : watch.Ensures first account state middle)
    (rest : ∀ value account state, middle value account state →
      watch.Ensures (next value) account state post) :
    watch.Ensures (first >>= next) account state post :=
  bind (head.mono rest)

theorem finished {procedure : Procedure α} {post : α → κ → σ → Prop}
    (h : watch.Ensures procedure account state post) :
    post (procedure.execute watch.host state).value
      ((procedure.execute watch.host state).history.foldl watch.enter account)
      (procedure.execute watch.host state).host := by
  induction procedure generalizing account state with
  | finish value => exact h
  | note note next ih => exact ih h.2
  | ask call next ih => exact ih _ h.2

/-- Each event of an execution was asked for, given what came before it. -/
theorem reached {procedure : Procedure α} {post : α → κ → σ → Prop}
    (h : watch.Ensures procedure account state post) {before after : List Event} {event : Event}
    (split : (procedure.execute watch.host state).history = before ++ event :: after) :
    watch.point (before.foldl watch.enter account) event
      (watch.host.follow state (before ++ [event])) := by
  induction procedure generalizing account state before with
  | finish value => exact absurd split.symm (by simp [Procedure.execute])
  | note note next ih =>
    cases before with
    | nil =>
      obtain ⟨rfl, -⟩ := List.cons.inj split
      exact h.1
    | cons first before =>
      obtain ⟨rfl, rest⟩ := List.cons.inj split
      exact ih h.2 rest
  | ask call next ih =>
    cases before with
    | nil =>
      obtain ⟨rfl, -⟩ := List.cons.inj split
      exact h.1
    | cons first before =>
      obtain ⟨rfl, rest⟩ := List.cons.inj split
      exact ih _ h.2 rest

theorem finished_ofHistory {host : Host σ} {point : List Event → Event → σ → Prop}
    {procedure : Procedure α} {post : α → List Event → σ → Prop}
    (h : (ofHistory host point).Ensures procedure [] state post) :
    post (procedure.execute host state).value (procedure.execute host state).history
      (procedure.execute host state).host := by
  have finished := h.finished
  rw [foldl_ofHistory] at finished
  exact finished

theorem reached_ofHistory {host : Host σ} {point : List Event → Event → σ → Prop}
    {procedure : Procedure α} {post : α → List Event → σ → Prop}
    (h : (ofHistory host point).Ensures procedure [] state post) {before after : List Event}
    {event : Event} (split : (procedure.execute host state).history = before ++ event :: after) :
    point before event (host.follow state (before ++ [event])) := by
  have reached := h.reached split
  rw [foldl_ofHistory] at reached
  exact reached

/-! Steps of a lifecycle: what follows a fault is skipped. -/

theorem step {first : Step ρ α} {next : α → Step ρ β} {runner : ρ}
    {middle : Except Fault α × ρ → κ → σ → Prop} {post : Except Fault β × ρ → κ → σ → Prop}
    (head : watch.Ensures (first runner) account state middle)
    (ok : ∀ value runner account state, middle (.ok value, runner) account state →
      watch.Ensures (next value runner) account state post)
    (error : ∀ fault runner account state, middle (.error fault, runner) account state →
      post (.error fault, runner) account state) :
    watch.Ensures ((first >>= next) runner) account state post := by
  refine andThen head ?_
  rintro ⟨value | fault, runner⟩ account state h
  · exact error _ _ _ _ h
  · exact ok _ _ _ _ h

end Ensures
end Watch
end CgroupBench
