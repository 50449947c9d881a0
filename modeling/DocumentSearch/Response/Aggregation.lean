import DocumentSearch.Query.Aggregation
import DocumentSearch.Response.Hit

/-!
The results of aggregations. Only the request says which shape to expect under each name, so the
requested definitions are walked in their order and each looks up its own part of the response;
what was not requested is not looked at. A nested definition has no result of its own and
contributes the results of its children in its place.
-/

namespace DocumentSearch

/-- Why a response does not answer its request. -/
inductive DecodeError where
  | response (error : RecordError)
  | missing (name : String)
  | notMetric (name : String)
  | missingChild (name child : String)
  | missingFilter (name resultKey : String)
  | missingLeaf (name resultKey : String)
  | missingBuckets (name : String)
  | malformedBuckets (name : String) (error : RecordError)

namespace DecodeError

def message : DecodeError → String
  | .response error => "unexpected search response: " ++ error.message
  | .missing name => "aggregation '" ++ name ++ "' missing from response"
  | .notMetric name => "metric aggregation '" ++ name ++ "' is not an object"
  | .missingChild name child =>
      "nested aggregation '" ++ name ++ "' has no child '" ++ child ++ "'"
  | .missingFilter name resultKey =>
      "filtered nested aggregation '" ++ name ++ "' has no '" ++ resultKey ++ "'"
  | .missingLeaf name resultKey =>
      "filtered nested aggregation '" ++ name ++ "' has no terms leaf under '" ++ resultKey ++ "'"
  | .missingBuckets name => "aggregation '" ++ name ++ "' has no buckets"
  | .malformedBuckets name error =>
      "aggregation '" ++ name ++ "' has malformed buckets: " ++ error.message

end DecodeError

inductive AggregationValues where
  | buckets (items : List Bucket)
  | metric (entries : Entries Json)

namespace AggregationValues

def size : AggregationValues → Nat
  | .buckets items => items.length
  | .metric entries => entries.length

def document : AggregationValues → Json
  | .buckets items => .array (items.map Bucket.document)
  | .metric entries => .object entries

end AggregationValues

/-- Results of different nested fields may share a name; they differ by their positions. -/
structure AggregationResult where
  name : String
  values : AggregationValues

namespace AggregationResult

def size (result : AggregationResult) : Nat := result.values.size

def document (result : AggregationResult) : Json :=
  .object [("name", .string result.name), ("values", result.values.document)]

end AggregationResult

namespace Aggregation

def filteredSuffix : String := "Filtered"

/-- The counts inside a filter bucket with the name that they stand under: first the bucket key
with its suffix, then the name that the request uses, then the only child that has buckets. -/
def filteredLeaf (filtered : Json) (resultKey bucketKey : String) : Option (String × Json) := do
  let children ← filtered.entries?
  let suffixed := bucketKey ++ filteredSuffix
  match children.get? suffixed, children.get? resultKey with
  | some leaf, _ => return (suffixed, leaf)
  | none, some leaf => return (resultKey, leaf)
  | none, none =>
      match children.filter fun child => (child.2.get? "buckets").isSome with
      | [leaf] => return leaf
      | _ => none

def bucketsOf (name : String) (raw : Json) : Except DecodeError (List Bucket) :=
  match raw.get? "buckets" with
  | none => .error (.missingBuckets name)
  | some buckets =>
      match buckets.asListOf Bucket.read with
      | .ok buckets => .ok buckets
      | .error error => .error (.malformedBuckets name error)

def bucketsResult (name : String) (raw : Json) : Except DecodeError (List AggregationResult) := do
  return [⟨name, .buckets (← bucketsOf name raw)⟩]

def metricResult (name : String) (raw : Json) : Except DecodeError (List AggregationResult) :=
  match raw.entries? with
  | none => .error (.notMetric name)
  | some entries => .ok [⟨name, .metric entries⟩]

def filteredResult (name resultKey bucketKey : String) (raw : Json) :
    Except DecodeError (List AggregationResult) :=
  match raw.get? resultKey with
  | none => .error (.missingFilter name resultKey)
  | some filtered =>
      match filteredLeaf filtered resultKey bucketKey with
      | none => .error (.missingLeaf name resultKey)
      | some (leafName, leaf) => bucketsResult leafName leaf

mutual

/-- The results of one definition, from the value that the response has under its name. -/
def results : Aggregation → String → Json → Except DecodeError (List AggregationResult)
  | .terms _ _, name, raw => bucketsResult name raw
  | .metric _ _, name, raw => metricResult name raw
  | .nested _ aggregations, name, raw => childResults aggregations name raw
  | .nestedFiltered _ resultKey bucketKey _ _, name, raw =>
      filteredResult name resultKey bucketKey raw

def childResults : List (String × Aggregation) → String → Json →
    Except DecodeError (List AggregationResult)
  | [], _, _ => .ok []
  | (child, aggregation) :: rest, name, raw =>
      match raw.get? child with
      | none => .error (.missingChild name child)
      | some rawChild => do
          let first ← aggregation.results child rawChild
          return first ++ (← childResults rest name raw)

end

end Aggregation

/-- The results of all requested definitions, in the order of the request. -/
def Aggregations.results (raw : Entries Json) :
    Aggregations → Except DecodeError (List AggregationResult)
  | [] => .ok []
  | (name, aggregation) :: rest =>
      match raw.get? name with
      | none => .error (.missing name)
      | some value => do
          let first ← aggregation.results name value
          return first ++ (← Aggregations.results raw rest)

end DocumentSearch
