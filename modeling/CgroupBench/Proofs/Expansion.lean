import CgroupBench.FileSearch
import Mathlib.Data.List.Forall2

/-!
# The records of a matrix

A matrix in which no dimension is given twice has one record for each way to pick a value of
every dimension, and a record names its values in the order in which the dimensions were given.
So a record answers for each dimension with a value of that dimension, and each value that was
given is the answer of some record.
-/
namespace CgroupBench

/-- The record has one value of each dimension, under its name and in their order. -/
def Record.Picks (dimensions : List (String × List Value)) (record : Record) : Prop :=
  List.Forall₂ (fun entry dimension => entry.1 = dimension.1 ∧ entry.2 ∈ dimension.2)
    record.entries dimensions

namespace Record.Picks

variable {dimensions : List (String × List Value)} {record : Record} {name : String}
  {values : List Value}

theorem names (picks : record.Picks dimensions) : record.names = dimensions.map (·.1) := by
  obtain ⟨entries⟩ := record
  change List.Forall₂ _ entries dimensions at picks
  show entries.map (·.1) = dimensions.map (·.1)
  induction picks with
  | nil => rfl
  | cons picked rest ih => rw [List.map_cons, List.map_cons, picked.1, ih]

/-- The last dimension adds the last value. -/
theorem append_iff :
    record.Picks (dimensions ++ [(name, values)]) ↔
      ∃ base : Record, base.Picks dimensions ∧
        ∃ value ∈ values, base.append name value = record := by
  constructor
  · intro picks
    have head := List.forall₂_take_append _ _ _ picks
    have last := List.forall₂_drop_append _ _ _ picks
    obtain ⟨⟨label, value⟩, entries, ⟨same, listed⟩, none, tail⟩ :=
      List.forall₂_cons_right_iff.mp last
    obtain rfl := List.forall₂_nil_right_iff.mp none
    obtain rfl : label = name := same
    refine ⟨⟨_⟩, head, value, listed, ?_⟩
    have whole := List.take_append_drop dimensions.length record.entries
    rw [tail] at whole
    exact congrArg Record.mk whole
  · rintro ⟨base, picks, value, listed, rfl⟩
    have last : List.Forall₂ (fun entry dimension : String × _ => entry.1 = dimension.1 ∧
        entry.2 ∈ dimension.2) [(name, value)] [(name, values)] := .cons ⟨rfl, listed⟩ .nil
    exact List.rel_append picks last

/-- A record answers for a dimension with a value of that dimension. -/
theorem get? (picks : record.Picks dimensions) (distinct : (dimensions.map (·.1)).Nodup)
    (mem : (name, values) ∈ dimensions) : ∃ value ∈ values, record.get? name = some value := by
  obtain ⟨entries⟩ := record
  change List.Forall₂ _ entries dimensions at picks
  show ∃ value ∈ values, entries.lookup name = some value
  induction picks with
  | nil => exact absurd mem List.not_mem_nil
  | cons picked rest ih =>
    obtain ⟨fresh, distinct⟩ := List.nodup_cons.mp distinct
    obtain ⟨same, listed⟩ := picked
    rw [List.lookup_cons, same]
    rcases List.mem_cons.mp mem with rfl | mem
    · exact ⟨_, listed, by simp⟩
    · have apart : (name == _) = false :=
        beq_false_of_ne fun equal => fresh (List.mem_map.mpr ⟨_, mem, equal⟩)
      rw [apart]
      exact ih distinct mem

/-- Any value of a dimension may stand in the place of the one that a record picked. -/
theorem exists_get? (picks : record.Picks dimensions) (distinct : (dimensions.map (·.1)).Nodup)
    (mem : (name, values) ∈ dimensions) {value : Value} (listed : value ∈ values) :
    ∃ other : Record, other.Picks dimensions ∧ other.get? name = some value := by
  obtain ⟨entries⟩ := record
  change List.Forall₂ _ entries dimensions at picks
  induction picks with
  | nil => exact absurd mem List.not_mem_nil
  | @cons entry _ _ _ picked rest ih =>
    obtain ⟨fresh, distinct⟩ := List.nodup_cons.mp distinct
    rcases List.mem_cons.mp mem with rfl | mem
    · refine ⟨⟨(name, value) :: _⟩, .cons ⟨rfl, listed⟩ rest, ?_⟩
      simp [Record.get?]
    · have apart : (name == _) = false :=
        beq_false_of_ne fun equal => fresh (List.mem_map.mpr ⟨_, mem, equal⟩)
      obtain ⟨⟨entries⟩, chosen, found⟩ := ih distinct mem
      refine ⟨⟨entry :: entries⟩, .cons picked chosen, ?_⟩
      rw [Record.get?, List.lookup_cons, picked.1, apart]
      exact found

end Record.Picks

theorem Record.mem_expand {records : List Record} {name : String} {values : List Value}
    {record : Record} :
    record ∈ expand records name values ↔
      ∃ base ∈ records, ∃ value ∈ values, base.append name value = record := by
  simp [expand]

namespace Matrix

variable {matrix : Matrix} {dimensions more : List (String × List Value)} {name : String}
  {values : List Value}

theorem repeated_of_option (once : (matrix.option name values).repeated = []) :
    name ∉ matrix.names ∧ matrix.repeated = [] := by
  rw [option] at once
  by_cases again : name ∈ matrix.names
  · rw [if_pos again] at once
    exact absurd once (List.append_ne_nil_of_right_ne_nil _ (List.cons_ne_nil _ _))
  · rw [if_neg again] at once
    exact ⟨again, once⟩

theorem repeated_of_options (once : (matrix.options dimensions).repeated = []) :
    matrix.repeated = [] := by
  induction dimensions generalizing matrix with
  | nil => exact once
  | cons dimension rest ih => exact (repeated_of_option (ih once)).2

/-- The matrix is the product of the dimensions, each of them given once. -/
structure Spans (matrix : Matrix) (dimensions : List (String × List Value)) : Prop where
  names : matrix.names = dimensions.map (·.1)
  distinct : (dimensions.map (·.1)).Nodup
  records : ∀ record, record ∈ matrix.records ↔ record.Picks dimensions

theorem spans_empty : ({} : Matrix).Spans [] where
  names := rfl
  distinct := List.nodup_nil
  records record := by
    rw [List.mem_singleton, Record.Picks, List.forall₂_nil_right_iff]
    exact ⟨congrArg Record.entries, congrArg Record.mk⟩

theorem Spans.option (h : matrix.Spans dimensions)
    (once : (matrix.option name values).repeated = []) :
    (matrix.option name values).Spans (dimensions ++ [(name, values)]) := by
  obtain ⟨fresh, -⟩ := repeated_of_option once
  have expanded : matrix.option name values = { matrix with
      names := matrix.names ++ [name]
      records := Record.expand matrix.records name values } := if_neg fresh
  rw [expanded]
  refine ⟨?_, ?_, fun record => ?_⟩
  · rw [h.names, List.map_append]
    rfl
  · rw [h.names] at fresh
    rw [List.map_append]
    refine List.nodup_append.mpr ⟨h.distinct, by simp, ?_⟩
    intro other listed last mem same
    obtain rfl := List.mem_singleton.mp mem
    exact fresh (same ▸ listed)
  · rw [Record.mem_expand, Record.Picks.append_iff]
    simp only [h.records]

theorem Spans.options (h : matrix.Spans dimensions)
    (once : (matrix.options more).repeated = []) :
    (matrix.options more).Spans (dimensions ++ more) := by
  induction more generalizing matrix dimensions with
  | nil =>
    rw [List.append_nil]
    exact h
  | cons dimension rest ih =>
    have spans := ih (h.option (repeated_of_options once)) once
    rw [List.append_assoc] at spans
    exact spans

theorem build_ok {records : List Record} (built : matrix.build = .ok records) :
    matrix.repeated = [] ∧ records ≠ [] ∧ matrix.records = records := by
  rw [build] at built
  by_cases once : matrix.repeated = []
  · rw [if_neg (not_not_intro once)] at built
    by_cases empty : matrix.names = [] ∨ matrix.records = []
    · rw [if_pos empty] at built
      cases built
    · rw [if_neg empty] at built
      obtain rfl := Except.ok.inj built
      exact ⟨once, fun none => empty (.inr none), rfl⟩
  · rw [if_pos once] at built
    cases built

end Matrix

namespace FileSearch

/-- All dimensions of the matrix that is built for a request. -/
def plan (search : FileSearch) (request : MatrixRequest) : List (String × List Value) :=
  search.dimensions request.defaultOnly ++ request.extra ++
    [(Key.iteration, iterationValues request.iterations)]

/-- The records are those of a matrix that could be built. -/
structure Plans (search : FileSearch) (request : MatrixRequest) (records : List Record) :
    Prop where
  passes : 0 ∉ search.passes
  nonempty : records ≠ []
  distinct : ((search.plan request).map (·.1)).Nodup
  picks : ∀ record, record ∈ records ↔ record.Picks (search.plan request)

theorem plans {search : FileSearch} {request : MatrixRequest} {records : List Record}
    (built : search.records request = .ok records) : search.Plans request records := by
  rw [FileSearch.records] at built
  by_cases zero : 0 ∈ search.passes
  · rw [if_pos zero] at built
    cases built
  · rw [if_neg zero] at built
    obtain ⟨once, nonempty, rfl⟩ := Matrix.build_ok built
    have earlier := (Matrix.repeated_of_option once).2
    have own := Matrix.spans_empty.options (Matrix.repeated_of_options earlier)
    have spans := (own.options earlier).option once
    exact ⟨zero, nonempty, spans.distinct, spans.records⟩

namespace Plans

variable {search : FileSearch} {request : MatrixRequest} {records : List Record}
  {record : Record} (h : search.Plans request records)
include h

theorem get? (mem : record ∈ records) {name : String} {values : List Value}
    (own : (name, values) ∈ search.dimensions request.defaultOnly) :
    ∃ value ∈ values, record.get? name = some value := by
  have planned : (name, values) ∈ search.plan request :=
    List.mem_append_left _ (List.mem_append_left _ own)
  exact ((h.picks record).mp mem).get? h.distinct planned

/-- Every value of a dimension of the search is that of some record. -/
theorem exists_get? {name : String} {values : List Value}
    (own : (name, values) ∈ search.dimensions request.defaultOnly) {value : Value}
    (listed : value ∈ values) : ∃ record ∈ records, record.get? name = some value := by
  have planned : (name, values) ∈ search.plan request :=
    List.mem_append_left _ (List.mem_append_left _ own)
  obtain ⟨first, mem⟩ := List.exists_mem_of_ne_nil records h.nonempty
  obtain ⟨record, picks, found⟩ :=
    ((h.picks first).mp mem).exists_get? h.distinct planned listed
  exact ⟨record, (h.picks record).mpr picks, found⟩

theorem names (mem : record ∈ records) : record.names = (search.plan request).map (·.1) :=
  ((h.picks record).mp mem).names

theorem passes_of_mem (mem : record ∈ records) :
    ∃ passes : UInt32, passes ≠ 0 ∧ record.get? Key.passes = some (.int passes.toUInt64) := by
  have own : (Key.passes, search.passes.map fun passes => Value.int passes.toUInt64) ∈
      search.dimensions request.defaultOnly := .head _
  obtain ⟨value, listed, found⟩ := h.get? mem own
  obtain ⟨passes, chosen, rfl⟩ := List.mem_map.mp listed
  exact ⟨passes, fun zero => h.passes (zero ▸ chosen), found⟩

theorem cgroupSize_of_mem (mem : record ∈ records) :
    ∃ size ∈ search.cgroupSizes, record.get? Key.cgroupSize = some (.int size) := by
  have own : (Key.cgroupSize, search.cgroupSizes.map Value.int) ∈
      search.dimensions request.defaultOnly := .tail _ (.head _)
  obtain ⟨value, listed, found⟩ := h.get? mem own
  obtain ⟨size, chosen, rfl⟩ := List.mem_map.mp listed
  exact ⟨size, chosen, found⟩

theorem variant_of_mem (mem : record ∈ records) :
    ∃ variant ∈ variants request.defaultOnly,
      record.get? Key.cgroupName = some (.text variant.label) := by
  have own : (Key.cgroupName,
      (variants request.defaultOnly).map fun variant => Value.text variant.label) ∈
      search.dimensions request.defaultOnly := .tail _ (.tail _ (.head _))
  obtain ⟨value, listed, found⟩ := h.get? mem own
  obtain ⟨variant, chosen, rfl⟩ := List.mem_map.mp listed
  exact ⟨variant, chosen, found⟩

theorem exists_cgroupSize {size : UInt64} (listed : size ∈ search.cgroupSizes) :
    ∃ record ∈ records, record.get? Key.cgroupSize = some (.int size) :=
  h.exists_get? (.tail _ (.head _)) (List.mem_map_of_mem listed)

theorem exists_variant {variant : Variant} (listed : variant ∈ variants request.defaultOnly) :
    ∃ record ∈ records, record.get? Key.cgroupName = some (.text variant.label) :=
  h.exists_get? (.tail _ (.tail _ (.head _))) (List.mem_map.mpr ⟨variant, listed, rfl⟩)

/-- A search passes over its directory as often as the record says, and at least once. -/
theorem command (mem : record ∈ records) :
    ∃ (passes : UInt64) (invocation : Invocation),
      record.get? Key.passes = some (.int passes) ∧ search.command record = .ok invocation ∧
        invocation.repeats.toNat = passes.toNat ∧ 1 ≤ passes.toNat := by
  obtain ⟨passes, positive, found⟩ := h.passes_of_mem mem
  have read : record.int Key.passes = .ok passes.toUInt64 := by
    simp [Record.int, found, Value.int?]
  have small : ¬ UInt32.size ≤ passes.toUInt64.toNat := by
    have bound := passes.toNat_lt_size
    simp only [UInt32.toNat_toUInt64]
    omega
  have wide : passes.toUInt64 ≠ 0 := by
    intro zero
    exact positive (UInt32.toNat_inj.mp (by simpa using congrArg UInt64.toNat zero))
  have counted : 1 ≤ passes.toNat := by
    have nonzero : passes.toNat ≠ 0 := fun zero => positive (UInt32.toNat_inj.mp zero)
    omega
  let argv := ["rg", search.pattern, search.dataDir]
  refine ⟨passes.toUInt64, ⟨argv, passes.toUInt64.toUInt32, true⟩, found, ?_, ?_, ?_⟩
  · rw [FileSearch.command, read]
    show (if UInt32.size ≤ passes.toUInt64.toNat then _ else _) = _
    rw [if_neg small, if_neg wide]
    rfl
  · simp
  · rw [UInt32.toNat_toUInt64]
    exact counted

end Plans
end FileSearch
end CgroupBench
