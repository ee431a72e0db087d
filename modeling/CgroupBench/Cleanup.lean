import CgroupBench.Variant

/-!
# Pending reversals

A preparation step registers its reversal before it touches the host. The pending list
is also kept in a journal that a termination handler may take at any time. Registering
and draining set the journal to the pending list; taking empties the journal and leaves
the pending list alone, so the two may differ after a take.
-/
namespace CgroupBench

inductive Reversal where
  | enableSmt
  | deleteCgroup (variant : Variant)
  | stopOptimizer
deriving DecidableEq, Repr

namespace Reversal

def label : Reversal → String
  | enableSmt => "enable SMT"
  | deleteCgroup variant => s!"delete {variant.label}"
  | stopOptimizer => "stop optimizer"

/-- What a killed series may have left behind, in the order of registration. -/
def outermost : List Reversal :=
  [.stopOptimizer, .deleteCgroup .damon, .deleteCgroup .baseline, .enableSmt]

end Reversal

structure Cleanup where
  /-- Registered and not yet drained, oldest first. -/
  pending : List Reversal := []
  /-- What a termination handler would find, oldest first. -/
  journal : List Reversal := []
deriving DecidableEq, Repr

namespace Cleanup

def register (cleanup : Cleanup) (reversal : Reversal) : Cleanup :=
  let pending := cleanup.pending ++ [reversal]
  ⟨pending, pending⟩

/-- Everything pending, newest first, and the emptied rest. -/
def drain (cleanup : Cleanup) : List Reversal × Cleanup :=
  (cleanup.pending.reverse, ⟨[], []⟩)

/-- The journal, so that a second handler does not find it again. -/
def take (cleanup : Cleanup) : List Reversal × Cleanup :=
  (cleanup.journal, { cleanup with journal := [] })

end Cleanup
end CgroupBench
