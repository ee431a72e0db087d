import CgroupBench.Json.Writer
import CgroupBench.Measurement

/-!
# The results file

An array with one object for each measurement, in order: the record's entries as they
stand, and the metrics by name.
-/
namespace CgroupBench

def Value.toJson : Value → Json
  | .int value => .ofNat value.toNat
  | .text value => .string value

def Record.toJson (record : Record) : Json :=
  .object (record.entries.map fun (name, value) => (name, value.toJson))

def Metrics.toJson (metrics : Metrics) : Json :=
  .object (metrics.entries.map fun (name, value) => (name, .ofFloat value))

def Measurement.toJson (measurement : Measurement) : Json :=
  .object [("config", measurement.record.toJson), ("results", measurement.metrics.toJson)]

namespace Report

def text (measurements : List Measurement) : String :=
  Json.render Json.indented (.array (measurements.map Measurement.toJson))

end Report
end CgroupBench
