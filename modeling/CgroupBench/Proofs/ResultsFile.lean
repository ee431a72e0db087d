import CgroupBench.Report
import CgroupBench.Proofs.ByteOrder
import CgroupBench.Proofs.JsonRoundTrip
import Mathlib.Data.List.Forall2

/-!
# What the results file tells

Read as JSON, the results file has one object for each measurement, in order. Its record comes back
whole, names that occur twice included, and an integer is never taken for a text. Of the metrics
the names come back and whether a value is a number at all. So whatever else the measurements hold,
files that are alike come from measurements with the same records and the same metric names.
-/
namespace CgroupBench

/-! Numbers. -/

namespace Decimal

open Float.Model

theorem unpackExponent_toNat (bits : BitVec Format.binary64.numBits) :
    (UnpackedFloat.unpackExponent bits).toNat = bits.toNat / fractions % 2048 := by
  rw [UnpackedFloat.unpackExponent, BitVec.toNat_cast, BitVec.extractLsb_toNat,
    Nat.shiftRight_eq_div_pow]
  rfl

theorem isFinite_iff (value : Float) :
    value.isFinite ↔ value.toBits.toNat / fractions % 2048 ≠ 2047 := by
  let bits : BitVec Format.binary64.numBits := value.toBits.toBitVec
  have greatest : UnpackedFloat.unpackExponent bits = -1#11 ↔
      value.toBits.toNat / fractions % 2048 = 2047 := by
    rw [← BitVec.toNat_inj, unpackExponent_toNat]
    rfl
  show (UnpackedFloat.unpack Format.binary64 bits).isFinite ↔ _
  rw [ne_eq, ← greatest]
  by_cases none : UnpackedFloat.unpackExponent bits = -1#11
  · refine iff_of_false ?_ (not_not_intro none)
    rw [show UnpackedFloat.unpack Format.binary64 bits = _ from if_pos none]
    split <;> nofun
  · refine iff_of_true ?_ none
    rw [show UnpackedFloat.unpack Format.binary64 bits = _ from if_neg none]
    by_cases least : UnpackedFloat.unpackExponent bits = 0#11
    · rw [if_pos least]
      by_cases zero : UnpackedFloat.unpackMantissa bits = 0#52
      · rw [dif_pos zero]
        rfl
      · rw [dif_neg zero]
        rfl
    · rw [if_neg least]
      rfl

theorem Reading.exists_ofFloat_eq {value : Float} (finite : value.isFinite) :
    ∃ number, ofFloat value = .finite number := by
  rw [ofFloat, ofBits, if_neg ((isFinite_iff value).mp finite)]
  split <;> exact ⟨_, rfl⟩

theorem Reading.ofFloat_ne {value : Float} (infinite : ¬ value.isFinite) (number : Finite) :
    ofFloat value ≠ .finite number := by
  rw [ofFloat, ofBits, if_pos (not_not.mp (mt (isFinite_iff value).mpr infinite))]
  split <;> nofun

end Decimal

namespace Json

/-- A finite metric is shown as a number, and any other as null. -/
def Shows (metric : Float) (shown : Json) : Prop :=
  if metric.isFinite then ∃ text, shown = .number text ∧ isNumber text.toList else shown = .null

theorem shows_ofFloat (metric : Float) : Shows metric (ofFloat metric) := by
  by_cases finite : metric.isFinite
  · obtain ⟨number, reads⟩ := Decimal.Reading.exists_ofFloat_eq finite
    rw [Shows, if_pos finite, ofFloat, reads]
    refine ⟨_, rfl, ?_⟩
    exact Decimal.isNumber_layout number bounds
  · rw [Shows, if_neg finite, ofFloat]
    split
    · exact absurd ‹_› (Decimal.Reading.ofFloat_ne finite _)
    · rfl

theorem formed_ofFloat (metric : Float) : Formed (ofFloat metric) := by
  have shows := shows_ofFloat metric
  unfold Shows at shows
  split at shows
  · obtain ⟨text, shown, spelled⟩ := shows
    rw [shown]
    exact .number spelled
  · rw [shows]
    exact .null

/-- The value of an option that a number or a string stands for: digits for an integer of 64 bits. -/
def optionValue? : Json → Option Value
  | .number text =>
    let count := Nat.ofDigitChars 10 text.toList 0
    if text.toList.all Char.isDigit ∧ count < UInt64.size then some (.int (.ofNat count)) else none
  | .string text => some (.text text)
  | _ => none

end Json

namespace Value

theorem optionValue?_toJson (value : Value) : value.toJson.optionValue? = some value := by
  cases value with
  | int value =>
    have written : (toString value.toNat).toList = Nat.toDigits 10 value.toNat := Nat.toList_repr
    have digits : (Nat.toDigits 10 value.toNat).all Char.isDigit :=
      List.all_eq_true.mpr (Decimal.toDigits_isDigit value.toNat)
    simp only [toJson, Json.ofNat, Json.optionValue?, written, Nat.ofDigitChars_ten_toDigits]
    rw [if_pos ⟨digits, value.toNat_lt⟩, UInt64.ofNat_toNat]
  | text value => rfl

theorem formed_toJson (value : Value) : Json.Formed value.toJson := by
  cases value with
  | int value =>
    refine .number ?_
    rw [show (toString value.toNat).toList = _ from Nat.toList_repr]
    exact Json.isNumber_toDigits _
  | text value => exact .string value

end Value

namespace Report

def KeepsEntry (entry : String × Value) (member : String × Json) : Prop :=
  member.1 = entry.1 ∧ member.2.optionValue? = some entry.2

def KeepsMetric (metric : String × Float) (member : String × Json) : Prop :=
  member.1 = metric.1 ∧ Json.Shows metric.2 member.2

/-- What an object of the results file says about a measurement: the entries of its record with their
values, and its metrics in the order of the bytes of their names. -/
inductive Tells (measurement : Measurement) : Json → Prop where
  | object {config results : List (String × Json)}
      (entries : List.Forall₂ KeepsEntry measurement.record.entries config)
      (metrics : List.Forall₂ KeepsMetric measurement.metrics.entries results)
      (ascending : results.Pairwise fun earlier later =>
        Text.Utf8.encode earlier.1 < Text.Utf8.encode later.1) :
      Tells measurement (.object [("config", .object config), ("results", .object results)])

theorem tells_toJson (measurement : Measurement) : Tells measurement measurement.toJson := by
  refine .object ?_ ?_ ?_
  · rw [List.forall₂_map_right_iff]
    exact List.forall₂_same.mpr fun entry _ => ⟨rfl, entry.2.optionValue?_toJson⟩
  · rw [List.forall₂_map_right_iff]
    exact List.forall₂_same.mpr fun metric _ => ⟨rfl, Json.shows_ofFloat metric.2⟩
  · exact List.pairwise_map.mpr (measurement.metrics.ascending.imp Text.Utf8.encode_lt)

theorem formed_toJson (measurement : Measurement) : Json.Formed measurement.toJson := by
  have config : Json.Formed measurement.record.toJson :=
    .object (List.forall_mem_map.mpr fun entry _ => entry.2.formed_toJson)
  have results : Json.Formed measurement.metrics.toJson :=
    .object (List.forall_mem_map.mpr fun metric _ => Json.formed_ofFloat metric.2)
  exact .object (List.forall_mem_cons.mpr ⟨config, List.forall_mem_singleton.mpr results⟩)

/-- What the results file gives away of a measurement. -/
def told (measurement : Measurement) : Record × List String :=
  (measurement.record, measurement.metrics.entries.map (·.1))

theorem keepsEntry_leftUnique : Relator.LeftUnique KeepsEntry := fun _ _ _ kept alsoKept =>
  Prod.ext (kept.1.symm.trans alsoKept.1) (Option.some.inj (kept.2.symm.trans alsoKept.2))

theorem names_eq_of_keepsMetric {metrics : List (String × Float)} {results : List (String × Json)}
    (kept : List.Forall₂ KeepsMetric metrics results) :
    metrics.map (·.1) = results.map (·.1) := by
  induction kept with
  | nil => rfl
  | cons first _ ih => rw [List.map_cons, List.map_cons, first.1, ih]

theorem told_eq_of_tells {measurement other : Measurement} {item : Json}
    (tells : Tells measurement item) (alsoTells : Tells other item) :
    told measurement = told other := by
  obtain ⟨entries, metrics, -⟩ := tells
  obtain ⟨otherEntries, otherMetrics, -⟩ := alsoTells
  have sameEntries : measurement.record.entries = other.record.entries :=
    List.left_unique_forall₂' keepsEntry_leftUnique entries otherEntries
  have sameNames : measurement.metrics.entries.map (·.1) = other.metrics.entries.map (·.1) :=
    (names_eq_of_keepsMetric metrics).trans (names_eq_of_keepsMetric otherMetrics).symm
  exact Prod.ext (congrArg Record.mk sameEntries) sameNames

theorem map_told_eq_of_tells {measurements others : List Measurement} {items : List Json}
    (tells : List.Forall₂ Tells measurements items) (alsoTells : List.Forall₂ Tells others items) :
    measurements.map told = others.map told := by
  induction tells generalizing others with
  | nil =>
    cases alsoTells
    rfl
  | cons first _ ih =>
    obtain ⟨⟩ | ⟨alsoFirst, alsoRest⟩ := alsoTells
    rw [List.map_cons, List.map_cons, told_eq_of_tells first alsoFirst, ih alsoRest]

theorem read?_text (measurements : List Measurement) :
    Json.read? (text measurements) = some (.array (measurements.map Measurement.toJson)) :=
  Json.read?_render Json.indented_plain
    (.array (List.forall_mem_map.mpr fun measurement _ => formed_toJson measurement))

theorem forall₂_tells (measurements : List Measurement) :
    List.Forall₂ Tells measurements (measurements.map Measurement.toJson) :=
  List.forall₂_map_right_iff.mpr (List.forall₂_same.mpr fun measurement _ => tells_toJson measurement)

/-- The results file reads as one object for each measurement, which tells it, and so files that are
alike tell the same. -/
theorem text_tells_all (measurements : List Measurement) :
    (∃ items, Json.read? (text measurements) = some (.array items) ∧
      List.Forall₂ Tells measurements items) ∧
    ∀ others, text measurements = text others → measurements.map told = others.map told := by
  refine ⟨⟨_, read?_text measurements, forall₂_tells measurements⟩, fun others same => ?_⟩
  have reads := read?_text measurements
  rw [same, read?_text others, Option.some.injEq, Json.array.injEq] at reads
  refine map_told_eq_of_tells (forall₂_tells measurements) ?_
  rw [← reads]
  exact forall₂_tells others

/-- A number and its digits as a text are told apart. -/
theorem text_ne_of_integer_and_digits :
    text [⟨⟨[(Key.passes, .int 5)]⟩, {}⟩] ≠ text [⟨⟨[(Key.passes, .text "5")]⟩, {}⟩] :=
  fun same => absurd ((text_tells_all _).2 _ same) (by decide)

end Report
end CgroupBench
