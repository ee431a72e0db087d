import CgroupBench.Call
import CgroupBench.Cleanup

/-!
# Procedures and their histories

A procedure is a finite tree of host calls: what comes next may depend on every earlier
reply. Between calls it leaves notes, which change nothing on the host and make the
points between two calls visible. Executing a procedure on a host gives its value, the
state of the host, and the history of calls and notes. A host is any step function, so a
statement about every host is a statement about every branch of the tree.
-/
namespace CgroupBench

/-- Where a run stands. -/
inductive Stage where
  | idle
  | preparing
  | running
  | capturing
  | tearingDown
  | done
  | aborted
deriving DecidableEq, Repr

def Stage.label : Stage → String
  | idle => "IDLE"
  | preparing => "PREPARING"
  | running => "RUNNING"
  | capturing => "CAPTURING"
  | tearingDown => "TEARING_DOWN"
  | done => "DONE"
  | aborted => "ABORTED"

inductive Note where
  | entered (stage : Stage)
  | registered (reversal : Reversal)
  | drained
  /-- The reversal is about to be carried out. -/
  | reversing (reversal : Reversal)
  /-- The boundary the runner works in from here on. -/
  | occupied (boundary : Option Boundary)
  /-- The workload's result hook is called with this output. -/
  | inspected (output : Output)
deriving DecidableEq, Repr

inductive Event where
  | called (call : Call) (reply : call.Reply)
  | noted (note : Note)

inductive Procedure (α : Type) where
  | finish (value : α)
  | note (note : Note) (next : Procedure α)
  | ask (call : Call) (next : call.Reply → Procedure α)

/-- Something that answers calls and has a state of its own. -/
structure Host (σ : Type) where
  answer : σ → (call : Call) → call.Reply × σ

structure Execution (σ α : Type) where
  value : α
  host : σ
  history : List Event

namespace Procedure

variable {α β γ σ : Type}

def bind (first : Procedure α) (next : α → Procedure β) : Procedure β :=
  match first with
  | .finish value => next value
  | .note mark rest => .note mark (rest.bind next)
  | .ask call rest => .ask call fun reply => (rest reply).bind next

instance : Monad Procedure where
  pure := .finish
  bind := bind

def leave (mark : Note) : Procedure Unit :=
  .note mark (.finish ())

def run (argv : List String) : Procedure (Except CallError Output) :=
  .ask (.run argv) .finish

def write (path contents : String) : Procedure (Except CallError Unit) :=
  .ask (.write path contents) .finish

def read (path : String) : Procedure (Except CallError String) :=
  .ask (.read path) .finish

def workload (scope : String) (invocation : Invocation) : Procedure (Except CallError Timed) :=
  .ask (.workload scope invocation) .finish

def execute (host : Host σ) : Procedure α → σ → Execution σ α
  | .finish value, state => ⟨value, state, []⟩
  | .note mark next, state =>
    let rest := next.execute host state
    { rest with history := .noted mark :: rest.history }
  | .ask call next, state =>
    let (reply, state) := host.answer state call
    let rest := (next reply).execute host state
    { rest with history := .called call reply :: rest.history }

theorem execute_pure (host : Host σ) (value : α) (state : σ) :
    (pure value : Procedure α).execute host state = ⟨value, state, []⟩ :=
  rfl

theorem execute_bind (host : Host σ) (first : Procedure α) (next : α → Procedure β)
    (state : σ) :
    (first >>= next).execute host state =
      let head := first.execute host state
      let rest := (next head.value).execute host head.host
      { rest with history := head.history ++ rest.history } := by
  show (first.bind next).execute host state = _
  induction first generalizing state with
  | finish value => rfl
  | note mark rest ih => simp [bind, execute, ih]
  | ask call rest ih => simp [bind, execute, ih]

theorem bind_finish : (procedure : Procedure α) → procedure.bind .finish = procedure
  | .finish _ => rfl
  | .note mark rest => congrArg (note mark) (bind_finish rest)
  | .ask call rest => congrArg (ask call) (funext fun reply => bind_finish (rest reply))

theorem bind_assoc (first : α → Procedure β) (second : β → Procedure γ) :
    (procedure : Procedure α) →
      (procedure.bind first).bind second = procedure.bind fun value => (first value).bind second
  | .finish _ => rfl
  | .note mark rest => congrArg (note mark) (bind_assoc first second rest)
  | .ask call rest =>
    congrArg (ask call) (funext fun reply => bind_assoc first second (rest reply))

end Procedure

instance : LawfulMonad Procedure :=
  LawfulMonad.mk' _ Procedure.bind_finish (fun _ _ => rfl)
    fun procedure first second => Procedure.bind_assoc first second procedure

/-- The calls of a history with their replies, in order. -/
def Event.calls : List Event → List ((call : Call) × call.Reply)
  | [] => []
  | .called call reply :: rest => ⟨call, reply⟩ :: calls rest
  | .noted _ :: rest => calls rest

theorem Event.calls_append (first second : List Event) :
    calls (first ++ second) = calls first ++ calls second := by
  induction first with
  | nil => rfl
  | cons event rest ih =>
    cases event with
    | called call reply => exact congrArg (_ :: ·) ih
    | noted note => exact ih

/-- What a note says about the pending reversals and their journal. -/
def Note.apply (cleanup : Cleanup) : Note → Cleanup
  | registered reversal => cleanup.register reversal
  | drained => cleanup.drain.2
  | _ => cleanup

/-- The pending reversals and the journal after a history that began with these, as long
as nobody takes the journal meanwhile. -/
def Event.cleanup (cleanup : Cleanup) : List Event → Cleanup
  | [] => cleanup
  | .noted note :: rest => Event.cleanup (note.apply cleanup) rest
  | .called _ _ :: rest => Event.cleanup cleanup rest

/-- Each output that a result hook was given, with the journal at that moment. -/
def Event.inspections (cleanup : Cleanup) : List Event → List (Output × List Reversal)
  | [] => []
  | .noted (.inspected output) :: rest => (output, cleanup.journal) :: inspections cleanup rest
  | event :: rest => inspections (Event.cleanup cleanup [event]) rest

end CgroupBench
