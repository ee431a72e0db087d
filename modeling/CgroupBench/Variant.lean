import CgroupBench.Fault

/-!
# The two variants of a benchmark

Each variant has a cgroup of its own with a well-known name. The optimizer is attached
in one of them only, so the name a run asks for decides whether it is optimized.
-/
namespace CgroupBench

inductive Variant where
  | baseline
  | damon
deriving DecidableEq, Repr

namespace Variant

def all : List Variant := [baseline, damon]

def label : Variant → String
  | baseline => "baseline_test"
  | damon => "damon_test"

def ofLabel (name : String) : Except Fault Variant :=
  match all.find? (·.label == name) with
  | some variant => .ok variant
  | none => .error <| .configuration
      s!"unknown cgroup `{name}` (expected baseline_test or damon_test)"

def isOptimized : Variant → Bool
  | baseline => false
  | damon => true

theorem ofLabel_label (variant : Variant) : ofLabel variant.label = .ok variant := by
  cases variant <;> rfl

theorem label_injective {first second : Variant} (h : first.label = second.label) :
    first = second := by
  cases first <;> cases second <;> simp_all [label]

end Variant

/-- A memory-limited cgroup as it was set up for one run. -/
structure Boundary where
  variant : Variant
  memoryLimit : UInt64
  optimizerAttached : Bool := false
deriving DecidableEq, Repr

end CgroupBench
