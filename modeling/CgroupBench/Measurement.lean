import CgroupBench.Call
import CgroupBench.Record

/-!
# Measurements

A completed run leaves the record it ran with and the metrics its workload reported.
Metrics are kept in ascending order of their names, so each name occurs once.
-/
namespace CgroupBench

structure Metrics where
  entries : List (String × Float) := []
  ascending : entries.Pairwise (·.1 < ·.1) := by exact List.Pairwise.nil

namespace Metrics

/-- Puts an entry before the first name that is not smaller, replacing an equal one. -/
def place (name : String) (value : Float) : List (String × Float) → List (String × Float)
  | [] => [(name, value)]
  | (other, kept) :: rest =>
    if name < other then (name, value) :: (other, kept) :: rest
    else if name = other then (name, value) :: rest
    else (other, kept) :: place name value rest

theorem mem_place {name : String} {value : Float} {entries : List (String × Float)}
    {entry : String × Float} (h : entry ∈ place name value entries) :
    entry = (name, value) ∨ entry ∈ entries := by
  induction entries with
  | nil => simpa [place] using h
  | cons head rest ih =>
    simp only [place] at h
    split at h
    · simpa using h
    split at h
    · rcases List.mem_cons.1 h with rfl | h
      · exact .inl rfl
      · exact .inr (.tail _ h)
    · rcases List.mem_cons.1 h with rfl | h
      · exact .inr (.head _)
      · exact (ih h).imp id (.tail _)

theorem ascending_place (name : String) (value : Float) {entries : List (String × Float)}
    (h : entries.Pairwise (·.1 < ·.1)) : (place name value entries).Pairwise (·.1 < ·.1) := by
  induction entries with
  | nil => simp [place]
  | cons head rest ih =>
    obtain ⟨above, sorted⟩ := List.pairwise_cons.1 h
    simp only [place]
    split
    next below =>
      refine List.pairwise_cons.2 ⟨fun entry mem => ?_, h⟩
      rcases List.mem_cons.1 mem with rfl | mem
      · exact below
      · exact String.lt_trans below (above entry mem)
    next notBelow =>
      split
      next same => exact List.pairwise_cons.2 ⟨fun entry mem => same ▸ above entry mem, sorted⟩
      next differs =>
        refine List.pairwise_cons.2 ⟨fun entry mem => ?_, ih sorted⟩
        rcases mem_place mem with rfl | mem
        · exact Std.lt_of_le_of_ne (String.not_lt.1 notBelow) (Ne.symm differs)
        · exact above entry mem

def insert (metrics : Metrics) (name : String) (value : Float) : Metrics :=
  ⟨place name value metrics.entries, ascending_place name value metrics.ascending⟩

def ofList (entries : List (String × Float)) : Metrics :=
  entries.foldl (fun metrics (name, value) => metrics.insert name value) {}

def get? (metrics : Metrics) (name : String) : Option Float :=
  metrics.entries.lookup name

def runtimeName : String := "runtime_sec"

/-- What a workload reports that looks at nothing but the clock. -/
def ofElapsed (elapsed : Duration) : Metrics :=
  ofList [(runtimeName, elapsed.toSeconds)]

end Metrics

structure Measurement where
  record : Record
  metrics : Metrics

namespace Measurement

def runtime? (measurement : Measurement) : Option Float :=
  measurement.metrics.get? Metrics.runtimeName

/-- The variant as it is shown in a summary. -/
def variant (measurement : Measurement) : String :=
  match measurement.record.get? Key.cgroupName with
  | some value => value.display
  | none => "-"

end Measurement
end CgroupBench
