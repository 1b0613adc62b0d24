import SlotDispatch.Priority

/-!
The figures that a dispatcher reports about itself, by key.
-/

namespace SlotDispatch

/-- The value of a metric. -/
inductive MetricValue where
  | unsigned (value : Nat)
  | text (value : String)
  | keys (value : List String)
  deriving DecidableEq, Repr

namespace MetricValue

/-- The value as shown to a reader; keys stand between commas. -/
def display : MetricValue → String
  | .unsigned value => Nat.repr value
  | .text value => value
  | .keys value => ",".intercalate value

/-- The number, where the value is one. -/
def unsigned? : MetricValue → Option Nat
  | .unsigned value => some value
  | _ => none

/-- The text, where the value is one. -/
def text? : MetricValue → Option String
  | .text value => some value
  | _ => none

/-- The keys, where the value is a list of them. -/
def keys? : MetricValue → Option (List String)
  | .keys value => some value
  | _ => none

end MetricValue

/-- What a metric is about. -/
inductive Metric where
  | totalSlots
  | metricKeys
  | networkName
  | configKeys
  deriving DecidableEq, Repr

namespace Metric

/-- Every metric, in the order in which the keys are listed. -/
def all : List Metric := [.totalSlots, .metricKeys, .networkName, .configKeys]

/-- The key of a metric. -/
def key : Metric → String
  | .totalSlots => "OPTIMAL_NUMBER_OF_INFER_REQUESTS"
  | .metricKeys => "SUPPORTED_METRICS"
  | .networkName => "NETWORK_NAME"
  | .configKeys => "SUPPORTED_CONFIG_KEYS"

/-- The metric of a key. -/
def ofKey? (key : String) : Option Metric := all.find? fun metric => metric.key == key

end Metric

end SlotDispatch
