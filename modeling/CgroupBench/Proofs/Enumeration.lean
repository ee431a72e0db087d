import CgroupBench.Proofs.Expansion
import Mathlib.Algebra.BigOperators.Ring.List
import Mathlib.Algebra.GroupWithZero.Nat
import Mathlib.Data.List.Induction
import Mathlib.Data.List.Nodup

/-!
# The order of the records of a matrix

A matrix is asked for its dimensions one after another, and a name that is given again is only
remembered. If every name is given once and every dimension has a value, the records are numbered:
the digits of a record's number, each in the length of its dimension and the last of them the least
significant, are the places of its values. So no record is missing, and none comes twice unless a
dimension names one value twice.
-/
namespace CgroupBench

/-- The digits of a number in these radices, of which the last is the least significant. -/
def mixedDigits : List Nat → Nat → List Nat
  | [], _ => []
  | radix :: rest, number => number / rest.prod % radix :: mixedDigits rest number

theorem length_mixedDigits (radices : List Nat) (number : Nat) :
    (mixedDigits radices number).length = radices.length := by
  induction radices with
  | nil => rfl
  | cons radix rest ih => exact congrArg (· + 1) ih

/-- One more radix adds one more digit, and leaves the others as they are. -/
theorem mixedDigits_concat (radices : List Nat) {radix digit : Nat} (small : digit < radix)
    (number : Nat) :
    mixedDigits (radices ++ [radix]) (number * radix + digit) =
      mixedDigits radices number ++ [digit] := by
  have shifted : ∀ scale, (number * radix + digit) / (scale * radix) = number / scale := by
    intro scale
    rw [Nat.mul_comm scale, ← Nat.div_div_eq_div_mul, Nat.mul_comm number,
      Nat.mul_add_div (Nat.zero_lt_of_lt small), Nat.div_eq_of_lt small, Nat.add_zero]
  induction radices with
  | nil =>
    have last : (number * radix + digit) / 1 % radix = digit := by
      rw [Nat.div_one, Nat.mul_comm, Nat.mul_add_mod, Nat.mod_eq_of_lt small]
    exact congrArg (· :: []) last
  | cons first rest ih =>
    rw [List.cons_append, mixedDigits, mixedDigits, ih, List.prod_append, List.prod_singleton,
      shifted]
    rfl

example : (List.range 6).map (mixedDigits [2, 3]) =
    [[0, 0], [0, 1], [0, 2], [1, 0], [1, 1], [1, 2]] := by
  decide

/-- The names that stand somewhere before as well, in order. -/
def repetitions (names : List String) : List String :=
  (names.zipIdx.filter fun (name, place) => name ∈ names.take place).map (·.1)

theorem repetitions_concat (names : List String) (name : String) :
    repetitions (names ++ [name]) =
      repetitions names ++ if name ∈ names then [name] else [] := by
  have earlier : ∀ entry ∈ names.zipIdx,
      decide (entry.1 ∈ (names ++ [name]).take entry.2) = decide (entry.1 ∈ names.take entry.2) := by
    rintro ⟨other, place⟩ mem
    have within := (List.mem_zipIdx mem).2.1
    rw [List.take_append_of_le_length (by omega)]
  rw [repetitions, List.zipIdx_append, List.filter_append, List.map_append,
    List.filter_congr earlier]
  refine congrArg (repetitions names ++ ·) ?_
  by_cases again : name ∈ names <;> simp [again]

theorem repetitions_eq_nil {names : List String} : repetitions names = [] ↔ names.Nodup := by
  induction names using List.reverseRecOn with
  | nil => exact ⟨fun _ => List.nodup_nil, fun _ => rfl⟩
  | append_singleton names name ih =>
    rw [repetitions_concat, List.append_eq_nil_iff, ih, ← List.concat_eq_append,
      List.nodup_concat, and_comm]
    refine and_congr_left fun _ => ?_
    by_cases again : name ∈ names <;> simp [again]

namespace Record

/-- The record has the value at the digit of each dimension, under its name and in their order. -/
def Selects (dimensions : List (String × List Value)) (digits : List Nat) (record : Record) : Prop :=
  List.Forall₂ (fun entry selected => entry.1 = selected.1.1 ∧
      selected.1.2[selected.2]? = some entry.2)
    record.entries (dimensions.zip digits)

variable {dimensions : List (String × List Value)} {digits : List Nat} {record : Record}

theorem Selects.append (selects : record.Selects dimensions digits)
    (each : dimensions.length = digits.length) {name : String} {values : List Value} {digit : Nat}
    {value : Value} (listed : values[digit]? = some value) :
    (record.append name value).Selects (dimensions ++ [(name, values)]) (digits ++ [digit]) := by
  have last : List.Forall₂ (fun entry selected : _ × _ => entry.1 = selected.1.1 ∧
      selected.1.2[selected.2]? = some entry.2) [(name, value)] [((name, values), digit)] :=
    .cons ⟨rfl, listed⟩ .nil
  rw [Selects, List.zip_append each]
  exact List.rel_append selects last

theorem Selects.picks (selects : record.Selects dimensions digits)
    (each : dimensions.length = digits.length) : record.Picks dimensions := by
  have picked := selects.imp fun entry selected same =>
    (⟨same.1, List.mem_of_getElem? same.2⟩ : entry.1 = selected.1.1 ∧ entry.2 ∈ selected.1.2)
  have first : dimensions = (dimensions.zip digits).map Prod.fst := by
    rw [List.map_fst_zip (Nat.le_of_eq each)]
  rw [Picks, first]
  exact List.forall₂_map_right_iff.mpr picked

theorem get?_of_mem (distinct : record.names.Nodup) {entry : String × Value}
    (mem : entry ∈ record.entries) : record.get? entry.1 = some entry.2 := by
  obtain ⟨before, after, split⟩ := List.append_of_mem mem
  rw [names, split, List.map_append, List.map_cons] at distinct
  refine List.lookup_eq_some_iff.mpr ⟨before, after, split, fun other earlier => ?_⟩
  have apart := (List.nodup_append.mp distinct).2.2 _ (List.mem_map_of_mem earlier) _ (.head _)
  simpa using Ne.symm apart

/-! One dimension more: what it does to the number of the records, to their order, and to whether
one of them comes twice. -/

variable {records : List Record} {name : String} {values : List Value}

theorem length_expand :
    (expand records name values).length = records.length * values.length := by
  simp [expand, List.length_flatMap]

theorem getElem?_expand (name : String) {number digit : Nat} {value : Value}
    (known : records[number]? = some record) (listed : values[digit]? = some value) :
    (expand records name values)[number * values.length + digit]? =
      some (record.append name value) := by
  obtain ⟨within, -⟩ := List.getElem?_eq_some_iff.mp listed
  have row : ∀ first : Record, (values.map (first.append name)).length = values.length :=
    fun first => List.length_map _
  induction records generalizing number with
  | nil => cases known
  | cons first rest ih =>
    rw [expand, List.flatMap_cons]
    cases number with
    | zero =>
      obtain rfl : first = record := Option.some.inj known
      rw [Nat.zero_mul, Nat.zero_add, List.getElem?_append_left (by rw [row]; exact within),
        List.getElem?_map, listed]
      rfl
    | succ number =>
      have later : (number + 1) * values.length + digit =
          (values.map (first.append name)).length + (number * values.length + digit) := by
        rw [row, Nat.succ_mul]
        omega
      rw [later, List.getElem?_append_right (Nat.le_add_right _ _), Nat.add_sub_cancel_left]
      exact ih known

theorem append_injective (name : String) {first second : Record} {value other : Value}
    (same : first.append name value = second.append name other) :
    first = second ∧ value = other := by
  obtain ⟨entries, last⟩ := List.append_inj' (Record.mk.inj same) rfl
  exact ⟨congrArg Record.mk entries, (Prod.mk.inj (List.singleton_inj.mp last)).2⟩

theorem nodup_expand (some : records ≠ []) (valued : values ≠ []) :
    (expand records name values).Nodup ↔ records.Nodup ∧ values.Nodup := by
  have row : ∀ record : Record, (values.map (record.append name)).Nodup ↔ values.Nodup :=
    fun record => List.nodup_map_iff fun _ _ same => (append_injective name same).2
  obtain ⟨value, listed⟩ := List.exists_mem_of_ne_nil values valued
  obtain ⟨record, mem⟩ := List.exists_mem_of_ne_nil records some
  have apart : Function.onFun List.Disjoint (fun record : Record => values.map (record.append name)) =
      (· ≠ ·) := by
    funext first second
    refine propext ⟨?_, ?_⟩
    · rintro disjoint rfl
      exact disjoint (List.mem_map_of_mem listed) (List.mem_map_of_mem listed)
    · intro different other here there
      obtain ⟨_, -, rfl⟩ := List.mem_map.mp here
      obtain ⟨_, -, same⟩ := List.mem_map.mp there
      exact different (append_injective name same).1.symm
  rw [expand, List.nodup_flatMap, apart]
  simp only [row]
  constructor
  · rintro ⟨each, distinct⟩
    exact ⟨distinct, each record mem⟩
  · rintro ⟨distinct, each⟩
    exact ⟨fun _ _ => each, distinct⟩

/-- All records with one value of each dimension, the last dimension varying fastest. -/
def product (dimensions : List (String × List Value)) : List Record :=
  dimensions.foldl (fun records (name, values) => expand records name values) [{}]

theorem product_concat (dimensions : List (String × List Value)) (name : String)
    (values : List Value) :
    product (dimensions ++ [(name, values)]) = expand (product dimensions) name values := by
  rw [product, List.foldl_append]
  rfl

theorem length_product (dimensions : List (String × List Value)) :
    (product dimensions).length = (dimensions.map (·.2.length)).prod := by
  induction dimensions using List.reverseRecOn with
  | nil => rfl
  | append_singleton dimensions last ih =>
    rw [product_concat, length_expand, ih, List.map_append, List.prod_append]
    simp

/-- A product of dimensions is empty only through an empty dimension. -/
theorem product_eq_nil :
    product dimensions = [] ↔ ∃ dimension ∈ dimensions, dimension.2 = [] := by
  rw [← List.length_eq_zero_iff, length_product, List.prod_eq_zero_iff, List.mem_map]
  simp only [List.length_eq_zero_iff]

theorem product_selects {number : Nat} (within : number < (product dimensions).length) :
    ∃ record, (product dimensions)[number]? = some record ∧
      record.Selects dimensions (mixedDigits (dimensions.map (·.2.length)) number) := by
  induction dimensions using List.reverseRecOn generalizing number with
  | nil =>
    obtain rfl : number = 0 := Nat.lt_one_iff.mp within
    exact ⟨{}, rfl, .nil⟩
  | append_singleton dimensions last ih =>
    obtain ⟨name, values⟩ := last
    rw [product_concat, length_expand] at within
    have valued : 0 < values.length := Nat.pos_of_lt_mul_left within
    have small := Nat.mod_lt number valued
    obtain ⟨base, known, selects⟩ := ih (Nat.div_lt_of_lt_mul (Nat.mul_comm _ _ ▸ within))
    have listed : values[number % values.length]? = some values[number % values.length] :=
      List.getElem?_eq_getElem small
    have split : number / values.length * values.length + number % values.length = number :=
      Nat.div_add_mod' number values.length
    have digits := mixedDigits_concat (dimensions.map (·.2.length)) small (number / values.length)
    have each : dimensions.length =
        (mixedDigits (dimensions.map (·.2.length)) (number / values.length)).length := by
      rw [length_mixedDigits, List.length_map]
    have found := getElem?_expand name known listed
    rw [split] at digits found
    rw [product_concat, List.map_append]
    exact ⟨_, found, digits ▸ selects.append each listed⟩

theorem nodup_product (valued : ∀ dimension ∈ dimensions, dimension.2 ≠ []) :
    (product dimensions).Nodup ↔ ∀ dimension ∈ dimensions, dimension.2.Nodup := by
  induction dimensions using List.reverseRecOn with
  | nil => exact iff_of_true (List.nodup_singleton _) (List.forall_mem_nil _)
  | append_singleton dimensions last ih =>
    rw [List.forall_mem_append, List.forall_mem_singleton] at valued
    have some : product dimensions ≠ [] := by
      rw [ne_eq, product_eq_nil]
      exact fun ⟨dimension, mem, valueless⟩ => valued.1 dimension mem valueless
    rw [product_concat, nodup_expand some valued.2, ih valued.1, List.forall_mem_append,
      List.forall_mem_singleton]

/-- The records are those of the dimensions, each at its number. -/
structure Enumerates (dimensions : List (String × List Value)) (records : List Record) : Prop where
  length : records.length = (dimensions.map (·.2.length)).prod
  selects : ∀ number < records.length, ∃ record, records[number]? = some record ∧
    record.Selects dimensions (mixedDigits (dimensions.map (·.2.length)) number)
  names : ∀ record ∈ records, record.names = dimensions.map (·.1)
  distinct : ∀ record ∈ records, record.names.Nodup
  get? : ∀ record ∈ records, ∀ entry ∈ record.entries, record.get? entry.1 = some entry.2
  nodup : records.Nodup ↔ ∀ dimension ∈ dimensions, dimension.2.Nodup

theorem enumerates_product (distinct : (dimensions.map (·.1)).Nodup)
    (valued : ∀ dimension ∈ dimensions, dimension.2 ≠ []) :
    Enumerates dimensions (product dimensions) := by
  have names : ∀ record ∈ product dimensions, record.names = dimensions.map (·.1) := by
    intro record mem
    obtain ⟨number, within, rfl⟩ := List.getElem_of_mem mem
    obtain ⟨other, known, selects⟩ := product_selects within
    rw [List.getElem?_eq_getElem within] at known
    rw [Option.some.inj known]
    exact (selects.picks (by rw [length_mixedDigits, List.length_map])).names
  have apart : ∀ record ∈ product dimensions, record.names.Nodup :=
    fun record mem => names record mem ▸ distinct
  exact {
    length := length_product dimensions
    selects := fun _ within => product_selects within
    names
    distinct := apart
    get? := fun record mem _ => get?_of_mem (apart record mem)
    nodup := nodup_product valued }

end Record

namespace Matrix

/-- What a matrix that is being built is asked for. -/
inductive Dimension where
  | option (name : String) (values : List Value)
  | iterations (count : UInt32)

/-- The name and the values of a dimension. The iterations are counted from 1. -/
def Dimension.spread : Dimension → String × List Value
  | option name values => (name, values)
  | iterations count =>
    (Key.iteration, (List.range' 1 count.toNat).map fun iteration => .int (.ofNat iteration))

def extend (matrix : Matrix) : Dimension → Matrix
  | .option name values => matrix.option name values
  | .iterations count => matrix.iterations count

theorem extend_eq (matrix : Matrix) (dimension : Dimension) :
    matrix.extend dimension = matrix.option dimension.spread.1 dimension.spread.2 := by
  cases dimension with
  | option name values => rfl
  | iterations count =>
    have counted : iterationValues count =
        (List.range' 1 count.toNat).map fun iteration => Value.int (.ofNat iteration) := by
      rw [iterationValues, List.range'_eq_map_range, List.map_map]
      refine List.map_congr_left fun index _ => ?_
      rw [Function.comp, Nat.add_comm]
    exact congrArg (matrix.option Key.iteration) counted

theorem foldl_extend (matrix : Matrix) (dimensions : List Dimension) :
    dimensions.foldl extend matrix = matrix.options (dimensions.map (·.spread)) := by
  rw [options, List.foldl_map]
  exact congrArg (List.foldl · matrix dimensions) (funext fun matrix => funext (extend_eq matrix))

variable {dimensions : List (String × List Value)}

theorem options_concat (matrix : Matrix) (name : String) (values : List Value) :
    matrix.options (dimensions ++ [(name, values)]) =
      (matrix.options dimensions).option name values := by
  rw [options, List.foldl_append]
  rfl

/-- A name is known once it was given, and remembered each time it is given again. -/
theorem options_names (dimensions : List (String × List Value)) :
    (∀ name, name ∈ (({} : Matrix).options dimensions).names ↔ name ∈ dimensions.map (·.1)) ∧
      (({} : Matrix).options dimensions).repeated = repetitions (dimensions.map (·.1)) := by
  induction dimensions using List.reverseRecOn with
  | nil => exact ⟨fun _ => Iff.rfl, rfl⟩
  | append_singleton dimensions last ih =>
    obtain ⟨name, values⟩ := last
    obtain ⟨known, remembered⟩ := ih
    rw [options_concat, List.map_append, List.map_singleton, repetitions_concat, ← remembered]
    by_cases again : name ∈ dimensions.map (·.1)
    · rw [option, if_pos ((known name).mpr again), if_pos again]
      refine ⟨fun other => (known other).trans ?_, rfl⟩
      rw [List.mem_append, List.mem_singleton]
      exact ⟨.inl, fun given => given.elim id fun same => same ▸ again⟩
    · rw [option, if_neg (mt (known name).mp again), if_neg again]
      refine ⟨fun other => ?_, (List.append_nil _).symm⟩
      rw [List.mem_append, List.mem_append, known]

theorem options_records (distinct : (dimensions.map (·.1)).Nodup) :
    (({} : Matrix).options dimensions).records = Record.product dimensions := by
  induction dimensions using List.reverseRecOn with
  | nil => rfl
  | append_singleton dimensions last ih =>
    obtain ⟨name, values⟩ := last
    rw [List.map_append, List.map_singleton, ← List.concat_eq_append, List.nodup_concat] at distinct
    obtain ⟨fresh, distinct⟩ := distinct
    rw [options_concat, option, if_neg (mt ((options_names dimensions).1 name).mp fresh),
      Record.product_concat, ih distinct]

/-- A matrix is refused for the names that were given again, or else for having no record; a matrix
that is not refused has every record at its number. -/
theorem build_enumerates (asked : List Dimension) :
    let dimensions := asked.map (·.spread)
    let names := dimensions.map (·.1)
    let repeated := ", ".intercalate (repetitions names)
    let built := (asked.foldl extend {}).build
    (¬ names.Nodup → built = .error (.configuration
        s!"option dimension(s) given more than once: {repeated}")) ∧
      (names.Nodup → asked = [] ∨ (∃ dimension ∈ dimensions, dimension.2 = []) →
        built = .error (.configuration "configuration matrix is empty")) ∧
      (names.Nodup → asked ≠ [] → (∀ dimension ∈ dimensions, dimension.2 ≠ []) →
        ∃ records, built = .ok records ∧ Record.Enumerates dimensions records) := by
  intro dimensions names repeated built
  obtain ⟨known, remembered⟩ := options_names dimensions
  have whole : built = (({} : Matrix).options dimensions).build :=
    congrArg build (foldl_extend {} asked)
  have once : names.Nodup → ¬ (({} : Matrix).options dimensions).repeated ≠ [] := fun distinct =>
    not_not_intro (remembered.trans (repetitions_eq_nil.mpr distinct))
  have lacking : (({} : Matrix).options dimensions).names = [] ∨ Record.product dimensions = [] ↔
      asked = [] ∨ ∃ dimension ∈ dimensions, dimension.2 = [] := by
    refine or_congr ?_ Record.product_eq_nil
    simp only [List.eq_nil_iff_forall_not_mem, known]
    rw [← List.eq_nil_iff_forall_not_mem, List.map_eq_nil_iff, List.map_eq_nil_iff,
      List.eq_nil_iff_forall_not_mem]
  rw [whole, build]
  refine ⟨fun again => ?_, fun distinct empty => ?_, fun distinct some valued => ?_⟩
  · rw [if_pos (remembered ▸ mt repetitions_eq_nil.mp again), remembered]
  · rw [if_neg (once distinct), options_records distinct, if_pos (lacking.mpr empty)]
  · have full : ¬ (asked = [] ∨ ∃ dimension ∈ dimensions, dimension.2 = []) := by
      rintro (none | ⟨dimension, mem, valueless⟩)
      · exact some none
      · exact valued dimension mem valueless
    rw [if_neg (once distinct), options_records distinct, if_neg (mt lacking.mp full)]
    exact ⟨_, rfl, Record.enumerates_product distinct valued⟩

end Matrix
end CgroupBench
