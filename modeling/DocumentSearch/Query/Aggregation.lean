import DocumentSearch.Json
import DocumentSearch.Error

/-!
Aggregations: summaries of the matching documents, requested by name. They are kept as entries,
so inserting a known name replaces its definition in place.
-/

namespace DocumentSearch

inductive MetricKind where
  | avg
  | sum
  | min
  | max
  | cardinality
  | valueCount
  | stats
deriving DecidableEq

namespace MetricKind

def all : List MetricKind := [avg, sum, min, max, cardinality, valueCount, stats]

def name : MetricKind → String
  | avg => "avg"
  | sum => "sum"
  | min => "min"
  | max => "max"
  | cardinality => "cardinality"
  | valueCount => "value_count"
  | stats => "stats"

def ofName (name : String) : Except UnknownName MetricKind :=
  match all.find? (·.name == name) with
  | some kind => .ok kind
  | none => .error (.metricKind name)

end MetricKind

/-- `terms` counts documents by the values of a field, `metric` computes a number, `nested` asks
for aggregations of the objects of a nested field, and `nestedFiltered` counts such objects by the
values of a field after filtering them; its filters pair a field with the values it may have. -/
inductive Aggregation where
  | terms (field : String) (size : UInt64)
  | metric (kind : MetricKind) (field : String)
  | nested (path : String) (aggregations : List (String × Aggregation))
  | nestedFiltered (path resultKey bucketKey : String) (filters : List (String × List Json))
      (size : UInt64)

abbrev Aggregations := Entries Aggregation

namespace Aggregation

def defaultSize : UInt64 := 10

end Aggregation

end DocumentSearch
