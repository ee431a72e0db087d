import CgroupBench.Procedure

/-!
# Steps

A step is a procedure over a state that may end in a fault. What it changed before the
fault stays changed: the lifecycle rolls back by reversals, never by forgetting.
-/
namespace CgroupBench

def Step (σ α : Type) : Type :=
  σ → Procedure (Except Fault α × σ)

namespace Step

variable {σ τ α β : Type}

def bind (first : Step σ α) (next : α → Step σ β) : Step σ β := fun state => do
  match ← first state with
  | (.ok value, state) => next value state
  | (.error fault, state) => return (.error fault, state)

instance : Monad (Step σ) where
  pure value := fun state => return (.ok value, state)
  bind := bind

def fail (fault : Fault) : Step σ α := fun state =>
  return (.error fault, state)

def ofExcept (result : Except Fault α) : Step σ α := fun state =>
  return (result, state)

def get : Step σ σ := fun state =>
  return (.ok state, state)

def modify (change : σ → σ) : Step σ Unit := fun state =>
  return (.ok (), change state)

def leave (note : Note) : Step σ Unit := fun state => do
  Procedure.leave note
  return (.ok (), state)

/-- A procedure that leaves the state alone, its error wrapped into a fault. -/
def lift (wrap : CallError → Fault) (procedure : Procedure (Except CallError α)) :
    Step σ α := fun state => do
  match ← procedure with
  | .ok value => return (.ok value, state)
  | .error cause => return (.error (wrap cause), state)

/-- A set-up call, described by `what` if it fails. -/
def setup (what : String) (procedure : Procedure (Except CallError α)) : Step σ α :=
  lift (.ofSetup what) procedure

/-- A step on a part of the state. -/
def onPart (part : σ → τ) (replace : τ → σ → σ) (step : Step τ α) : Step σ α := fun state => do
  let (result, changed) ← step (part state)
  return (result, replace changed state)

/-- Swallows a fault that ends at most a run; a fatal one still ends the step. -/
def bestEffort (step : Step σ α) : Step σ Unit := fun state => do
  match ← step state with
  | (.ok _, state) => return (.ok (), state)
  | (.error fault, state) =>
    return (if fault.severity = .fatal then .error fault else .ok (), state)

end Step
end CgroupBench
