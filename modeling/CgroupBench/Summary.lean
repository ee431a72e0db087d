import CgroupBench.Decimal.Places
import CgroupBench.Measurement
import CgroupBench.Samples
import CgroupBench.Text.Pad

/-!
# Summaries

One row for each variant that has a run time, in the order in which the variants first
appear. Measurements without a run time count nowhere.
-/
namespace CgroupBench

structure VariantSummary where
  variant : String
  runs : Nat
  mean : Float
  least : Float
  greatest : Float

namespace Summary

/-- The smaller of the two, and the second of two equal ones. What is not a number gives
way to the other. -/
def smaller (first second : Float) : Float :=
  if second.isNaN || first < second then first else second

def larger (first second : Float) : Float :=
  if second.isNaN || second < first then first else second

def infinity : Float := 1.0 / 0.0

/-- Added from the left, beginning with the zero that keeps the sign of a negative zero. -/
def sum (values : List Float) : Float :=
  values.foldl (· + ·) (-0.0)

def row (variant : String) (runtimes : List Float) : VariantSummary where
  variant
  runs := runtimes.length
  mean := sum runtimes / runtimes.length.toFloat
  least := runtimes.foldl smaller infinity
  greatest := runtimes.foldl larger (-infinity)

/-- The variants in the order in which they first appeared, and the run times of each of them. -/
structure Tally where
  order : List String := []
  samples : Samples := {}
  sampled : ∀ variant ∈ order, (samples.get? variant).isSome := by exact List.forall_mem_nil _

namespace Tally

def add (tally : Tally) (variant : String) (runtime : Float) : Tally where
  order :=
    if (tally.samples.get? variant).isSome then tally.order else tally.order ++ [variant]
  samples := tally.samples.add variant runtime
  sampled other listed := by
    rw [Samples.get?_add]
    split
    next => rfl
    next differs =>
      split at listed
      next => exact tally.sampled other listed
      next =>
        rcases List.mem_append.1 listed with listed | listed
        · exact tally.sampled other listed
        · exact absurd (List.mem_singleton.1 listed) differs

def rows (tally : Tally) : List VariantSummary :=
  tally.order.attach.map fun ⟨variant, listed⟩ =>
    row variant ((tally.samples.get? variant).get (tally.sampled variant listed))

end Tally

def tally (measurements : List Measurement) : Tally :=
  measurements.foldl (fun tally measurement =>
    match measurement.runtime? with
    | some runtime => tally.add measurement.variant runtime
    | none => tally) {}

def rows (measurements : List Measurement) : List VariantSummary :=
  (tally measurements).rows

def line (variant runs mean least greatest : String) : String :=
  " ".intercalate [Text.padRight 16 variant, Text.padLeft 5 runs, Text.padLeft 10 mean,
    Text.padLeft 10 least, Text.padLeft 10 greatest]

/-- Seconds with three places, the unit after the padded number. -/
def seconds (value : Float) : String :=
  Text.padLeft 9 (Decimal.toPlaces value 3) ++ "s"

def dashes (count : Nat) : String :=
  .ofList (List.replicate count '-')

def table (measurements : List Measurement) : List String :=
  line "CGROUP" "RUNS" "MEAN" "MIN" "MAX" ::
    line (dashes 16) (dashes 5) (dashes 10) (dashes 10) (dashes 10) ::
    (rows measurements).map fun row =>
      line row.variant (toString row.runs) (seconds row.mean) (seconds row.least)
        (seconds row.greatest)

end Summary
end CgroupBench
