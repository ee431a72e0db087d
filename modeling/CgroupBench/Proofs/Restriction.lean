import CgroupBench.Proofs.Enumeration

/-!
# The matrix of the baseline alone

A file search may be restricted to the baseline, which takes one value out of a dimension in the
middle of its matrix. What comes after that dimension treats both matrices alike: a name that is
given again is remembered in both, and a further dimension multiplies the records of both. So the
restricted search has half of the records of the full one, those of the baseline in their order,
and is refused for the same fault.
-/
namespace CgroupBench

namespace Record

def isBaseline (record : Record) : Bool :=
  record.get? Key.cgroupName == some (.text Variant.baseline.label)

variable {record : Record} {records : List Record} {name other : String} {value found : Value}
  {values : List Value}

/-- A later entry does not change what an earlier one answers. -/
theorem get?_append_of_some (known : record.get? other = some found) :
    (record.append name value).get? other = some found := by
  rw [get?, append, List.lookup_append, ← get?, known]
  rfl

theorem get?_append_of_none (unknown : record.get? name = none) :
    (record.append name value).get? name = some value := by
  rw [get?, append, List.lookup_append, ← get?, unknown]
  simp

theorem isBaseline_append (known : (record.get? Key.cgroupName).isSome) :
    (record.append name value).isBaseline = record.isBaseline := by
  obtain ⟨found, known⟩ := Option.isSome_iff_exists.mp known
  rw [isBaseline, isBaseline, get?_append_of_some known, known]

theorem expand_cons (record : Record) (records : List Record) (name : String)
    (values : List Value) :
    expand (record :: records) name values =
      values.map (record.append name) ++ expand records name values :=
  List.flatMap_cons

/-- A dimension that comes after the variants leaves a record on its side. -/
theorem filter_expand (known : ∀ record ∈ records, (record.get? Key.cgroupName).isSome) :
    (expand records name values).filter isBaseline =
      expand (records.filter isBaseline) name values := by
  induction records with
  | nil => rfl
  | cons record rest ih =>
    obtain ⟨here, later⟩ := List.forall_mem_cons.mp known
    have kept : (values.map (record.append name)).filter isBaseline =
        if record.isBaseline then values.map (record.append name) else [] := by
      rw [List.filter_map]
      have alike : isBaseline ∘ record.append name = fun _ => record.isBaseline :=
        funext fun _ => isBaseline_append here
      rw [alike]
      cases record.isBaseline <;> simp
    rw [expand_cons, List.filter_append, ih later, kept, List.filter_cons]
    cases record.isBaseline
    · rfl
    · exact (expand_cons record _ name values).symm

end Record

namespace Matrix

/-- The second matrix has half of the records of the first, those of the baseline. -/
structure Halved (full half : Matrix) : Prop where
  names : half.names = full.names
  repeated : half.repeated = full.repeated
  records : half.records = full.records.filter Record.isBaseline
  length : full.records.length = 2 * half.records.length
  known : ∀ record ∈ full.records, (record.get? Key.cgroupName).isSome

variable {matrix full half : Matrix}

/-- The dimension of the variants, once with both of them and once with the baseline alone. -/
theorem halved_variants (fresh : Key.cgroupName ∉ matrix.names)
    (unknown : ∀ record ∈ matrix.records, record.get? Key.cgroupName = none) :
    Halved
      (matrix.option Key.cgroupName [.text Variant.baseline.label, .text Variant.damon.label])
      (matrix.option Key.cgroupName [.text Variant.baseline.label]) := by
  rw [option, if_neg fresh, option, if_neg fresh]
  refine ⟨rfl, rfl, ?_, ?_, ?_⟩
  · show Record.expand matrix.records _ _ = (Record.expand matrix.records _ _).filter _
    generalize matrix.records = records at unknown
    induction records with
    | nil => rfl
    | cons record rest ih =>
      obtain ⟨here, later⟩ := List.forall_mem_cons.mp unknown
      have baseline : (record.append Key.cgroupName (.text Variant.baseline.label)).isBaseline :=
        beq_iff_eq.mpr (Record.get?_append_of_none here)
      have damon : ¬ (record.append Key.cgroupName (.text Variant.damon.label)).isBaseline := by
        rw [Record.isBaseline, Record.get?_append_of_none here]
        decide
      rw [Record.expand_cons, Record.expand_cons, List.filter_append, ← ih later]
      simp [baseline, damon]
  · show (Record.expand matrix.records _ _).length = 2 * (Record.expand matrix.records _ _).length
    simp only [Record.length_expand, List.length_cons, List.length_nil]
    omega
  · intro record mem
    obtain ⟨base, listed, value, -, rfl⟩ := Record.mem_expand.mp mem
    rw [Record.get?_append_of_none (unknown base listed)]
    rfl

theorem Halved.option (h : Halved full half) (name : String) (values : List Value) :
    Halved (full.option name values) (half.option name values) := by
  by_cases again : name ∈ full.names
  · rw [Matrix.option, if_pos again, Matrix.option, if_pos (h.names ▸ again)]
    exact ⟨h.names, congrArg (· ++ [name]) h.repeated, h.records, h.length, h.known⟩
  · rw [Matrix.option, if_neg again, Matrix.option, if_neg (h.names ▸ again)]
    refine ⟨congrArg (· ++ [name]) h.names, h.repeated, ?_, ?_, ?_⟩
    · show Record.expand half.records name values = (Record.expand full.records name values).filter _
      rw [Record.filter_expand h.known, h.records]
    · show (Record.expand _ _ _).length = 2 * (Record.expand _ _ _).length
      rw [Record.length_expand, Record.length_expand, h.length, Nat.mul_assoc]
    · intro record mem
      obtain ⟨base, listed, value, -, rfl⟩ := Record.mem_expand.mp mem
      obtain ⟨found, known⟩ := Option.isSome_iff_exists.mp (h.known base listed)
      rw [Record.get?_append_of_some known]
      rfl

theorem Halved.options (h : Halved full half) (dimensions : List (String × List Value)) :
    Halved (full.options dimensions) (half.options dimensions) := by
  induction dimensions generalizing full half with
  | nil => exact h
  | cons dimension rest ih => exact ih (h.option dimension.1 dimension.2)

/-- Half of the records are none only if there are none, so both matrices are refused alike. -/
theorem Halved.build (h : Halved full half) :
    match full.build with
    | .ok records =>
      let kept := records.filter Record.isBaseline
      half.build = .ok kept ∧ records.length = 2 * kept.length
    | .error fault => half.build = .error fault := by
  have empty : half.records = [] ↔ full.records = [] := by
    rw [← List.length_eq_zero_iff, ← List.length_eq_zero_iff, h.length]
    omega
  rw [Matrix.build, Matrix.build, h.names, h.repeated]
  simp only [empty]
  by_cases again : full.repeated ≠ []
  · simp only [if_pos again]
  · simp only [if_neg again]
    by_cases none : full.names = [] ∨ full.records = []
    · simp only [if_pos none]
    · simp only [if_neg none]
      exact ⟨congrArg Except.ok h.records, h.records ▸ h.length⟩

end Matrix

namespace FileSearch

/-- Both searches begin with the same passes and sizes, and go on alike after the variants. -/
theorem halved_dimensions (search : FileSearch) :
    (({} : Matrix).options (search.dimensions false)).Halved
      (({} : Matrix).options (search.dimensions true)) := by
  let before : List (String × List Value) :=
    [(Key.passes, search.passes.map fun passes => .int passes.toUInt64),
      (Key.cgroupSize, search.cgroupSizes.map .int)]
  have spans : (({} : Matrix).options before).Spans before := Matrix.spans_empty.options rfl
  have fresh : Key.cgroupName ∉ (({} : Matrix).options before).names := by
    rw [spans.names]
    simp [before, Key.passes, Key.cgroupSize, Key.cgroupName]
  suffices unknown : ∀ record ∈ (({} : Matrix).options before).records,
      record.get? Key.cgroupName = none from
    (Matrix.halved_variants fresh unknown).option Key.benchmark [.text name]
  intro record mem
  have listed : record.names = before.map (·.1) := ((spans.records record).mp mem).names
  rw [spans.names, ← listed] at fresh
  refine List.lookup_eq_none_iff.mpr fun entry mem => ?_
  exact bne_iff_ne.mpr fun same => fresh (same ▸ List.mem_map_of_mem mem)

/-- A search that is restricted to the baseline has the records of the full search that are of the
baseline, which are half of them, or is refused for the same fault. -/
theorem default_only_filters (search : FileSearch) (request : MatrixRequest) :
    let restricted := search.records { request with defaultOnly := true }
    match search.records { request with defaultOnly := false } with
    | .ok records =>
      let kept := records.filter fun record =>
        record.get? Key.cgroupName == some (.text "baseline_test")
      restricted = .ok kept ∧ records.length = 2 * kept.length
    | .error fault => restricted = .error fault := by
  have halved := (search.halved_dimensions.options request.extra).option Key.iteration
    (iterationValues request.iterations)
  simp only [records]
  by_cases zero : 0 ∈ search.passes
  · simp only [if_pos zero]
  · simp only [if_neg zero]
    exact halved.build

end FileSearch
end CgroupBench
