import CgroupBench.Proofs.Watch
import CgroupBench.Runner
import CgroupBench.Proofs.Ending

/-!
# Two runs side by side

Two hosts that answer a call in the same way whenever it is made can be compared run by run. The
two procedures are carried out side by side, each on its host, with an account of the calls that
each of them makes. A relation between two runners and two accounts that survives every call which
both hosts answer alike survives the setting up of a run and its launch, and both come out with
the same result.
-/
namespace CgroupBench

variable {α β γ δ : Type}

/-- A host that answers a call in the same way whenever it is made. -/
def Host.fixed (answer : (call : Call) → call.Reply) : Host Unit :=
  ⟨fun _ call => (answer call, ())⟩

/-- The calls of a history, in order. -/
def Event.asked (history : List Event) : List Call :=
  (calls history).map (·.1)

theorem Event.mem_asked {history : List Event} {call : Call} :
    call ∈ asked history ↔ ∃ reply, .called call reply ∈ history := by
  induction history with
  | nil => simp [asked, calls]
  | cons event rest ih =>
    cases event with
    | noted note => simpa [asked, calls] using ih
    | called made answer =>
      have split : call ∈ asked (.called made answer :: rest) ↔ call = made ∨ call ∈ asked rest :=
        List.mem_cons
      rw [split, ih]
      constructor
      · rintro (rfl | ⟨reply, mem⟩)
        · exact ⟨answer, .head _⟩
        · exact ⟨reply, .tail _ mem⟩
      · rintro ⟨reply, mem⟩
        rcases List.mem_cons.mp mem with same | mem
        · cases same
          exact .inl rfl
        · exact .inr ⟨reply, mem⟩

/-- The replies of a host that gives fixed answers are these answers. -/
theorem Event.mem_fixed {answer : (call : Call) → call.Reply} {procedure : Procedure α}
    {call : Call} {reply : call.Reply}
    (mem : .called call reply ∈ (procedure.execute (.fixed answer) ()).history) :
    reply = answer call := by
  obtain ⟨before, after, split⟩ := List.append_of_mem mem
  exact (Procedure.answered split).symm

/-- The answers of two hosts. -/
structure Answers where
  first : (call : Call) → call.Reply
  second : (call : Call) → call.Reply

namespace Answers

variable {answers : Answers} {one other : List Call}

def Alike (answers : Answers) (call : Call) : Prop :=
  answers.first call = answers.second call

/-- What comes of two procedures, each on its host, and of the calls that were made so far. -/
def Both (answers : Answers) (left : Procedure α) (right : Procedure β) (one other : List Call)
    (post : α → β → List Call → List Call → Prop) : Prop :=
  let first := left.execute (.fixed answers.first) ()
  let second := right.execute (.fixed answers.second) ()
  post first.value second.value (one ++ Event.asked first.history)
    (other ++ Event.asked second.history)

namespace Both

theorem finish {left : α} {right : β} {post : α → β → List Call → List Call → Prop}
    (h : post left right one other) :
    answers.Both (.finish left) (.finish right) one other post := by
  show post left right (one ++ []) (other ++ [])
  rwa [List.append_nil, List.append_nil]

theorem mono {left : Procedure α} {right : Procedure β}
    {post post' : α → β → List Call → List Call → Prop}
    (h : answers.Both left right one other post)
    (implied : ∀ value value' one other,
      post value value' one other → post' value value' one other) :
    answers.Both left right one other post' :=
  implied _ _ _ _ h

theorem bind {left : Procedure α} {right : Procedure β} {next : α → Procedure γ}
    {next' : β → Procedure δ} {post : γ → δ → List Call → List Call → Prop}
    (h : answers.Both left right one other fun value value' one other =>
      answers.Both (next value) (next' value') one other post) :
    answers.Both (left >>= next) (right >>= next') one other post := by
  unfold Both at h ⊢
  simp only [Procedure.execute_bind, Event.asked, Event.calls_append, List.map_append,
    List.append_assoc] at h ⊢
  exact h

theorem andThen {left : Procedure α} {right : Procedure β} {next : α → Procedure γ}
    {next' : β → Procedure δ} {middle : α → β → List Call → List Call → Prop}
    {post : γ → δ → List Call → List Call → Prop} (head : answers.Both left right one other middle)
    (rest : ∀ value value' one other, middle value value' one other →
      answers.Both (next value) (next' value') one other post) :
    answers.Both (left >>= next) (right >>= next') one other post :=
  bind (head.mono rest)

theorem note {mark mark' : Note} {left : Procedure α} {right : Procedure β}
    {post : α → β → List Call → List Call → Prop} (h : answers.Both left right one other post) :
    answers.Both (.note mark left) (.note mark' right) one other post :=
  h

/-- Both make the same call. -/
theorem ask (call : Call) {next : call.Reply → Procedure α} {next' : call.Reply → Procedure β}
    {post : α → β → List Call → List Call → Prop}
    (h : answers.Both (next (answers.first call)) (next' (answers.second call)) (one ++ [call])
      (other ++ [call]) post) :
    answers.Both (.ask call next) (.ask call next') one other post := by
  unfold Both at h ⊢
  simp only [List.append_assoc] at h
  exact h

/-- Only the first makes a call. -/
theorem askFirst (call : Call) {next : call.Reply → Procedure α} {right : Procedure β}
    {post : α → β → List Call → List Call → Prop}
    (h : answers.Both (next (answers.first call)) right (one ++ [call]) other post) :
    answers.Both (.ask call next) right one other post := by
  unfold Both at h ⊢
  simp only [List.append_assoc] at h
  exact h

end Both

/-! A procedure that makes no call which the hosts answer differently. -/

/-- The procedure gives the same value on both hosts, and what holds of the calls still holds. -/
def Same (answers : Answers) (inv : List Call → List Call → Prop) (procedure : Procedure α) :
    Prop :=
  ∀ one other, inv one other →
    answers.Both procedure procedure one other fun value value' one other =>
      value = value' ∧ inv one other

/-- A relation that survives each call which is answered alike. -/
def Lasts (answers : Answers) (inv : List Call → List Call → Prop) : Prop :=
  ∀ call one other, answers.Alike call → inv one other → inv (one ++ [call]) (other ++ [call])

namespace Same

variable {inv : List Call → List Call → Prop}

theorem pure (value : α) : answers.Same inv (pure value : Procedure α) :=
  fun _ _ h => .finish ⟨rfl, h⟩

theorem bind {first : Procedure α} {next : α → Procedure β} (head : answers.Same inv first)
    (rest : ∀ value, answers.Same inv (next value)) : answers.Same inv (first >>= next) := by
  intro one other h
  apply (head one other h).andThen
  rintro value _ one other ⟨rfl, h⟩
  exact rest value one other h

theorem ask (lasts : answers.Lasts inv) {call : Call} (alike : answers.Alike call) :
    answers.Same inv (.ask call .finish) :=
  fun _ _ h => .ask call (.finish ⟨alike, lasts call _ _ alike h⟩)

theorem attempt {call : Procedure (Except CallError α)} (same : answers.Same inv call)
    (retries : Nat) : answers.Same inv (Cgroups.attempt call retries) := by
  induction retries with
  | zero => exact same
  | succ retries ih =>
    apply same.bind
    rintro (cause | value)
    · show answers.Same inv (if cause.isUnlaunchable then _ else _)
      split
      · exact pure _
      · exact ih
    · exact pure _

theorem delete (lasts : answers.Lasts inv) {variant : Variant}
    (alike : answers.Alike (.run (Cgroups.deleteArgv variant))) :
    answers.Same inv (Cgroups.delete variant) :=
  (ask lasts alike).bind fun _ => pure _

theorem detach (lasts : answers.Lasts inv) {optimizer : Optimizer}
    (alike : answers.Alike (.run optimizer.stopArgv)) : answers.Same inv optimizer.detach :=
  (ask lasts alike).bind fun _ => pure _

theorem attach (lasts : answers.Lasts inv) {optimizer : Optimizer} (boundary : Boundary)
    (alike : ∀ descriptor, answers.Alike (.run (optimizer.startArgv descriptor))) :
    answers.Same inv (optimizer.attach boundary) := by
  unfold Optimizer.attach
  cases optimizer.descriptor with
  | none => exact pure _
  | some descriptor =>
    have started : answers.Same inv
        (Step.setup s!"start optimizer for {boundary.variant.label}"
          (Procedure.run (optimizer.startArgv descriptor)) boundary) := by
      apply (ask lasts (alike descriptor)).bind
      rintro (cause | value) <;> exact pure _
    apply started.bind
    rintro ⟨fault | value, part⟩ <;> exact pure _

end Same

/-- The hosts differ in nothing that has to do with cgroups, the optimizer or a launch. -/
structure Agree (answers : Answers) (tools : Tools) : Prop where
  delete (variant : Variant) : answers.Alike (.run (Cgroups.deleteArgv variant))
  create (variant : Variant) : answers.Alike (.run (Cgroups.createArgv variant))
  limit (variant : Variant) (text : String) :
    answers.Alike (.write (tools.cgroups.limitPath variant) text)
  start (descriptor : String) : answers.Alike (.run (tools.optimizer.startArgv descriptor))
  stop : answers.Alike (.run tools.optimizer.stopArgv)
  launch (scope : String) (invocation : Invocation) : answers.Alike (.workload scope invocation)

/-- A relation between two runners, and between the calls so far, that survives what both runners
do alike and what both hosts answer alike. -/
structure Steady (answers : Answers) (tools : Tools)
    (inv : Runner → Runner → List Call → List Call → Prop) : Prop where
  tools {left right one other} : inv left right one other →
    left.tools = tools ∧ right.tools = tools
  lasts {left right} : answers.Lasts (inv left right)
  register {left right one other} (reversal : Reversal) : inv left right one other →
    inv { left with cleanup := left.cleanup.register reversal }
      { right with cleanup := right.cleanup.register reversal } one other
  into {left right one other} (stage : Stage) : inv left right one other →
    inv (left.into stage) (right.into stage) one other
  occupy {left right one other} (boundary : Option Boundary) : inv left right one other →
    inv { left with active := boundary } { right with active := boundary } one other

/-- Two steps came out with the same result, and a relation holds of what they left. -/
def Level (inv : Runner → Runner → List Call → List Call → Prop)
    (out out' : Except Fault α × Runner) (one other : List Call) : Prop :=
  out.1 = out'.1 ∧ inv out.2 out'.2 one other

/-- The rule of composition for steps. A fault in the first step ends them both. -/
theorem Both.steps {middle inv : Runner → Runner → List Call → List Call → Prop}
    {first : Step Runner α} {next : α → Step Runner β} {left right : Runner}
    (head : answers.Both (first left) (first right) one other (Level middle))
    (ended : ∀ {left right one other}, middle left right one other → inv left right one other)
    (rest : ∀ value left right one other, middle left right one other →
      answers.Both (next value left) (next value right) one other (Level inv)) :
    answers.Both ((first >>= next) left) ((first >>= next) right) one other (Level inv) := by
  apply head.andThen
  rintro ⟨fault | value, left⟩ ⟨_, right⟩ one other ⟨rfl, h⟩
  · exact .finish ⟨rfl, ended h⟩
  · exact rest value left right one other h

/-- The step has the same result on both hosts, and the relation survives it. -/
def Twin (answers : Answers) (inv : Runner → Runner → List Call → List Call → Prop)
    (step : Step Runner α) : Prop :=
  ∀ left right one other, inv left right one other →
    answers.Both (step left) (step right) one other (Level inv)

namespace Twin

variable {inv : Runner → Runner → List Call → List Call → Prop}

theorem pure (result : Except Fault α) : answers.Twin inv (Step.ofExcept result) :=
  fun _ _ _ _ h => .finish ⟨rfl, h⟩

theorem bind {first : Step Runner α} {next : α → Step Runner β} (head : answers.Twin inv first)
    (rest : ∀ value, answers.Twin inv (next value)) : answers.Twin inv (first >>= next) :=
  fun left right one other h => (head left right one other h).steps id rest

theorem leave (note : Note) : answers.Twin inv (Step.leave note) :=
  fun _ _ _ _ h => .note (.finish ⟨rfl, h⟩)

/-- A procedure whose value is the only thing that is done with it. -/
theorem aside {procedure : Procedure α} {result : α → Except Fault β}
    (same : ∀ left right, answers.Same (inv left right) procedure) :
    answers.Twin inv (fun runner => do
      let value ← procedure
      return (result value, runner)) := by
  intro left right one other h
  apply (same left right one other h).andThen
  rintro value _ one other ⟨rfl, h⟩
  exact .finish ⟨rfl, h⟩

theorem lift {wrap : CallError → Fault} {procedure : Procedure (Except CallError α)}
    (same : ∀ left right, answers.Same (inv left right) procedure) :
    answers.Twin inv (Step.lift wrap procedure) := by
  intro left right one other h
  apply (same left right one other h).andThen
  rintro (cause | value) _ one other ⟨rfl, h⟩ <;> exact .finish ⟨rfl, h⟩

end Twin

namespace Steady

variable {tools : Tools} {inv : Runner → Runner → List Call → List Call → Prop}
  (steady : answers.Steady tools inv) (agree : answers.Agree tools)
include steady

theorem registers (reversal : Reversal) : answers.Twin inv (Runner.register reversal) :=
  fun _ _ _ _ h => .note (.finish ⟨rfl, steady.register reversal h⟩)

theorem occupies (boundary : Option Boundary) : answers.Twin inv (Runner.occupy boundary) :=
  fun _ _ _ _ h => .note (.finish ⟨rfl, steady.occupy boundary h⟩)

theorem enters (stage : Stage) : answers.Twin inv (Runner.enter stage) :=
  fun _ _ _ _ h => .note (.finish ⟨rfl, steady.into stage h⟩)

include agree

theorem create (variant : Variant) (memoryLimit : UInt64) :
    answers.Twin inv (tools.cgroups.create variant memoryLimit) := by
  refine .bind (.lift fun _ _ => .delete steady.lasts (agree.delete variant)) fun _ => ?_
  refine .bind (.lift fun _ _ => .attempt (.ask steady.lasts (agree.create variant)) _) fun _ => ?_
  refine .bind (.lift fun _ _ => .attempt (.ask steady.lasts (agree.limit variant _)) _) fun _ => ?_
  exact .pure _

theorem setUp (target : Target) : answers.Twin inv (Runner.setUp target) := by
  intro left right one other h
  obtain ⟨mine, yours⟩ := steady.tools h
  unfold Runner.setUp
  show answers.Both ((Runner.register _ >>= _) left) ((Runner.register _ >>= _) right) _ _ _
  rw [mine, yours]
  refine Twin.bind (steady.registers _) (fun _ => ?_) left right one other h
  refine .bind (steady.create agree _ _) fun boundary => ?_
  split
  · refine .bind (steady.registers _) fun _ => ?_
    refine .bind (.aside fun _ _ => .attach steady.lasts boundary agree.start) fun attached => ?_
    exact .bind (steady.occupies _) fun _ => .pure _
  · exact steady.occupies _

theorem ensureStopped : answers.Twin inv tools.optimizer.ensureStopped :=
  .lift fun _ _ => .detach steady.lasts agree.stop

theorem measure (workload : Workload) (record : Record) (variant : Variant)
    (invocation : Invocation) :
    answers.Twin inv (Runner.measure workload record variant invocation) := by
  refine .bind (steady.enters .running) fun _ => ?_
  refine .bind (.lift fun _ _ => .ask steady.lasts (agree.launch _ _)) fun timed => ?_
  refine .bind (steady.enters .capturing) fun _ => .bind (.leave _) fun _ => ?_
  cases workload.inspect timed.output timed.elapsed with
  | measured metrics => exact .pure _
  | faulty fault => exact .pure _
  | panicked => exact .pure _

end Steady
end Answers
end CgroupBench
