/-!
# Samples

Values that were gathered under names. The names are kept in ascending order, each of them once,
and the values of a name in the order in which they came.
-/
namespace CgroupBench

structure Samples where
  entries : List (String × List Float) := []
  ascending : entries.Pairwise (·.1 < ·.1) := by exact List.Pairwise.nil

namespace Samples

/-- Adds a value to those of its name. A new name is placed before the first that is greater. -/
def place (name : String) (value : Float) :
    List (String × List Float) → List (String × List Float)
  | [] => [(name, [value])]
  | (other, values) :: rest =>
    if name < other then (name, [value]) :: (other, values) :: rest
    else if name = other then (other, values ++ [value]) :: rest
    else (other, values) :: place name value rest

variable {name : String} {value : Float} {entries : List (String × List Float)}

theorem mem_place {entry : String × List Float} (mem : entry ∈ place name value entries) :
    entry.1 = name ∨ entry.1 ∈ entries.map (·.1) := by
  induction entries with
  | nil =>
    obtain rfl := List.mem_singleton.1 mem
    exact .inl rfl
  | cons head rest ih =>
    rw [place] at mem
    split at mem
    · rcases List.mem_cons.1 mem with rfl | mem
      · exact .inl rfl
      · exact .inr (List.mem_map_of_mem mem)
    split at mem
    · rcases List.mem_cons.1 mem with rfl | mem
      · exact .inr (.head _)
      · exact .inr (.tail _ (List.mem_map_of_mem mem))
    · rcases List.mem_cons.1 mem with rfl | mem
      · exact .inr (.head _)
      · exact (ih mem).imp id (.tail _)

theorem ascending_place (name : String) (value : Float)
    (ascending : entries.Pairwise (·.1 < ·.1)) :
    (place name value entries).Pairwise (·.1 < ·.1) := by
  induction entries with
  | nil => exact List.pairwise_singleton ..
  | cons head rest ih =>
    obtain ⟨above, sorted⟩ := List.pairwise_cons.1 ascending
    rw [place]
    split
    next below =>
      refine List.pairwise_cons.2 ⟨fun entry mem => ?_, ascending⟩
      rcases List.mem_cons.1 mem with rfl | mem
      · exact below
      · exact String.lt_trans below (above entry mem)
    next notBelow =>
      split
      next => exact List.pairwise_cons.2 ⟨above, sorted⟩
      next differs =>
        refine List.pairwise_cons.2 ⟨fun entry mem => ?_, ih sorted⟩
        rcases mem_place mem with same | listed
        · exact same ▸ Std.lt_of_le_of_ne (String.not_lt.1 notBelow) (Ne.symm differs)
        · obtain ⟨other, mem, same⟩ := List.mem_map.1 listed
          exact same ▸ above other mem

theorem lookup_place (ascending : entries.Pairwise (·.1 < ·.1)) (other : String) :
    (place name value entries).lookup other =
      if other = name then some ((entries.lookup name).getD [] ++ [value])
      else entries.lookup other := by
  induction entries with
  | nil =>
    by_cases asked : other = name
    · simp [place, asked]
    · simp [place, List.lookup_cons, beq_false_of_ne asked, asked]
  | cons head rest ih =>
    obtain ⟨above, sorted⟩ := List.pairwise_cons.1 ascending
    obtain ⟨first, values⟩ := head
    rw [place]
    split
    next below =>
      have absent : ((first, values) :: rest).lookup name = none := by
        refine List.lookup_eq_none_iff.2 fun entry mem => ?_
        rcases List.mem_cons.1 mem with rfl | mem
        · exact bne_iff_ne.2 (String.ne_of_lt below)
        · exact bne_iff_ne.2 (String.ne_of_lt (String.lt_trans below (above entry mem)))
      rw [absent]
      by_cases asked : other = name
      · simp [asked]
      · rw [List.lookup_cons, beq_false_of_ne asked, if_neg asked]
    next =>
      split
      next same =>
        subst same
        by_cases asked : other = name
        · simp [asked]
        · simp [List.lookup_cons, beq_false_of_ne asked, asked]
      next differs =>
        by_cases asked : other = first
        · simp [asked, Ne.symm differs]
        · simp [List.lookup_cons, beq_false_of_ne asked, beq_false_of_ne differs, ih sorted]

def add (samples : Samples) (name : String) (value : Float) : Samples :=
  ⟨place name value samples.entries, ascending_place name value samples.ascending⟩

def get? (samples : Samples) (name : String) : Option (List Float) :=
  samples.entries.lookup name

/-- The values of a name are those it had and the new one; other names keep theirs. -/
theorem get?_add (samples : Samples) (name : String) (value : Float) (other : String) :
    (samples.add name value).get? other =
      if other = name then some ((samples.get? name).getD [] ++ [value])
      else samples.get? other :=
  lookup_place samples.ascending other

end Samples
end CgroupBench
