import DocumentSearch.Response.Aggregation

/-!
Search responses. A response must state how many documents match. It may leave out the list of hits,
which then is empty, and the member `aggregations`, without which it has no aggregation results.
-/

namespace DocumentSearch

structure SearchResult where
  hits : List Hit
  total : UInt64
  aggregations : List AggregationResult

namespace SearchResult

def document (result : SearchResult) : Json :=
  .object [("hits", .array (result.hits.map Hit.document)), ("total", .natural result.total),
    ("aggregations", .array (result.aggregations.map AggregationResult.document))]

end SearchResult

namespace Response

/-- The number of matching documents: a natural number, or an object that has it as `value`. -/
def total (document : Json) : Except RecordError UInt64 :=
  match document, document.get? "value" with
  | .number (.natural n), _ => .ok n
  | _, some (.number (.natural n)) => .ok n
  | _, _ => .error (.noVariant "TotalHits")

structure RawHits where
  total : UInt64
  hits : List Hit

def hitsRecord : Record RawHits where
  name := "RawHits"
  defaults := ⟨0, []⟩
  fields := [
    { name := "total"
      required := true
      store := fun raw value => return { raw with total := ← Response.total value } },
    { name := "hits"
      store := fun raw value => return { raw with hits := ← value.asListOf Hit.read } }]

structure RawResponse where
  hits : RawHits
  aggregations : Option (Entries Json)

def record : Record RawResponse where
  name := "RawResponse"
  defaults := ⟨⟨0, []⟩, none⟩
  fields := [
    { name := "hits"
      required := true
      store := fun raw value => return { raw with hits := ← hitsRecord.read .refused value } },
    { name := "aggregations"
      store := fun raw value =>
        return { raw with aggregations := ← value.asOption Json.asEntries } }]

def read (response : Json) : Except DecodeError RawResponse :=
  match record.read .refused response with
  | .ok raw => .ok raw
  | .error error => .error (.response error)

/-- The result of a search that requested the given aggregations. -/
def result (requested : Aggregations) (response : Json) : Except DecodeError SearchResult := do
  let raw ← read response
  let aggregations ← match raw.aggregations with
    | none => .ok []
    | some entries => Aggregations.results entries requested
  return ⟨raw.hits.hits, raw.hits.total, aggregations⟩

end Response

end DocumentSearch
