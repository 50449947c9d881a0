import DocumentSearch.Query.Aggregation
import DocumentSearch.Query.Clause
import DocumentSearch.Query.Sort

/-!
A complete search query: one boolean query with paging, sorting, the fields to return, the least
score and the aggregations.
-/

namespace DocumentSearch

structure Query where
  conditions : BoolQuery := {}
  offset : Option UInt64 := none
  limit : Option UInt64 := none
  sort : List SortKey := []
  fields : Option (List String) := none
  minScore : Option Binary64 := none
  aggregations : Aggregations := []

end DocumentSearch
