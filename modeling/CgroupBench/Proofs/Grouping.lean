import CgroupBench.Summary
import Mathlib.Algebra.BigOperators.Group.List.Lemmas
import Mathlib.Algebra.GroupWithZero.Nat
import Mathlib.Data.List.Dedup
import Mathlib.Data.List.Induction
import Mathlib.Data.List.Perm.Basic

/-!
# Run times grouped by variant

A summary is tallied in one pass over the measurements, in which a variant is listed when its first
run time comes. At each point of that pass the listed variants are those that have a run time, in
the order of their first ones, and the samples of a variant are its run times so far. So the rows
split the run times among them, and a measurement without one has no part in it.
-/
namespace CgroupBench.Summary

/-- The text of the first entry that names a variant, or a dash if there is none. -/
def shownVariant (record : Record) : String :=
  ((record.entries.find? (·.1 == "cgroup_name")).map (·.2.display)).getD "-"

/-- The run times with the variants they belong to, in order. -/
def timed (measurements : List Measurement) : List (String × Float) :=
  measurements.filterMap fun measurement =>
    (measurement.metrics.get? "runtime_sec").map fun runtime =>
      (shownVariant measurement.record, runtime)

def runtimesOf (variant : String) (timed : List (String × Float)) : List Float :=
  (timed.filter (·.1 == variant)).map (·.2)

theorem runtimesOf_concat (variant other : String) (runtime : Float)
    (timed : List (String × Float)) :
    runtimesOf variant (timed ++ [(other, runtime)]) =
      runtimesOf variant timed ++ if variant = other then [runtime] else [] := by
  rw [runtimesOf, List.filter_append, List.map_append]
  by_cases same : variant = other
  · simp [runtimesOf, same]
  · simp [runtimesOf, same, beq_false_of_ne (Ne.symm same)]

theorem runtimesOf_eq_nil {variant : String} {timed : List (String × Float)}
    (absent : variant ∉ timed.map (·.1)) : runtimesOf variant timed = [] := by
  refine List.map_eq_nil_iff.mpr (List.filter_eq_nil_iff.mpr fun entry mem => ?_)
  exact fun same => absent (beq_iff_eq.mp same ▸ List.mem_map_of_mem mem)

namespace Tally

/-- What a tally holds after these run times. -/
structure Gathers (tally : Tally) (timed : List (String × Float)) : Prop where
  listed : ∀ variant, variant ∈ tally.order ↔ variant ∈ timed.map (·.1)
  inOrder : tally.order.Pairwise fun one other =>
    (timed.map (·.1)).idxOf one < (timed.map (·.1)).idxOf other
  samples : ∀ variant, tally.samples.get? variant =
    if variant ∈ timed.map (·.1) then some (runtimesOf variant timed) else none

variable {tally : Tally} {timed : List (String × Float)}

theorem Gathers.isSome_iff (h : tally.Gathers timed) (variant : String) :
    (tally.samples.get? variant).isSome ↔ variant ∈ timed.map (·.1) := by
  rw [h.samples]
  split <;> simp_all

/-- The samples that a tally has of a variant are its run times, also if it has none yet. -/
theorem Gathers.getD (h : tally.Gathers timed) (variant : String) :
    (tally.samples.get? variant).getD [] = runtimesOf variant timed := by
  rw [h.samples]
  split
  next => rfl
  next absent => exact (runtimesOf_eq_nil absent).symm

/-- What comes later does not move the first place of a variant. -/
theorem Gathers.inOrder_append (h : tally.Gathers timed) (later : List String) :
    tally.order.Pairwise fun one other =>
      (timed.map (·.1) ++ later).idxOf one < (timed.map (·.1) ++ later).idxOf other := by
  refine h.inOrder.imp_of_mem fun one other before => ?_
  rwa [List.idxOf_append_of_mem ((h.listed _).mp one),
    List.idxOf_append_of_mem ((h.listed _).mp other)]

theorem Gathers.add (h : tally.Gathers timed) (variant : String) (runtime : Float) :
    (tally.add variant runtime).Gathers (timed ++ [(variant, runtime)]) := by
  have samples : ∀ other, (tally.add variant runtime).samples.get? other =
      if other ∈ (timed ++ [(variant, runtime)]).map (·.1) then
        some (runtimesOf other (timed ++ [(variant, runtime)])) else none := by
    intro other
    show (tally.samples.add variant runtime).get? other = _
    rw [Samples.get?_add, runtimesOf_concat, List.map_append, List.map_singleton]
    by_cases same : other = variant
    · simp [same, h.getD]
    · rw [if_neg same, if_neg same, List.append_nil, h.samples]
      simp only [List.mem_append, List.mem_singleton, same, or_false]
  by_cases known : variant ∈ timed.map (·.1)
  · have order : (tally.add variant runtime).order = tally.order :=
      if_pos ((h.isSome_iff variant).mpr known)
    refine ⟨fun other => ?_, ?_, samples⟩
    · rw [order, h.listed, List.map_append, List.mem_append, List.map_singleton,
        List.mem_singleton]
      exact ⟨.inl, fun listed => listed.elim id fun same => same ▸ known⟩
    · rw [order, List.map_append]
      exact h.inOrder_append _
  · have order : (tally.add variant runtime).order = tally.order ++ [variant] :=
      if_neg (mt (h.isSome_iff variant).mp known)
    refine ⟨fun other => ?_, ?_, samples⟩
    · rw [order, List.map_append, List.mem_append, List.mem_append, h.listed]
      rfl
    · rw [order, List.map_append, List.map_singleton]
      refine List.pairwise_append.mpr ⟨h.inOrder_append _, List.pairwise_singleton .., ?_⟩
      intro one listed last mem
      obtain rfl := List.mem_singleton.mp mem
      rw [List.idxOf_append_of_mem ((h.listed one).mp listed), List.idxOf_append_of_notMem known]
      exact Nat.lt_add_right _ (List.idxOf_lt_length_of_mem ((h.listed one).mp listed))

end Tally

end CgroupBench.Summary
