import DocumentSearch.Query

/-!
The request document of a query. Parts that are not set are left out, except that a boolean query
always lists its three kinds of clauses and a clause on exact values always states its boost.
Members stand in a fixed order, so equal queries have equal documents.
-/

namespace DocumentSearch

/-- The member, if there is a value for it. -/
def optional (name : String) (value : Option Json) : Entries Json :=
  value.toList.map (name, ·)

def RangeBounds.document (bounds : RangeBounds) : Json :=
  .object (optional "gt" bounds.gt ++ optional "gte" bounds.gte ++ optional "lt" bounds.lt ++
    optional "lte" bounds.lte)

namespace Clause

def boostDocument (boost : Option Binary64) : Json := .float (boost.getD defaultBoost)

def boolDocument (must should filter : List Json) : Json :=
  .single "bool" (.object [("must", .array must), ("should", .array should),
    ("filter", .array filter)])

/-- The values stand under the name of the field, beside the boost. -/
def termsDocument (field : String) (values : List Json) (boost : Option Binary64) : Json :=
  .single "terms" (.object (Entries.put [(field, .array values)] "boost" (boostDocument boost)))

mutual

def document : Clause → Json
  | .matching field query fuzziness =>
      .single "match" (.single field (.object
        (("query", query) :: optional "fuzziness" (fuzziness.map .string))))
  | .phrase field query slop =>
      .single "match_phrase" (.single field (.object
        (("query", .string query) :: optional "slop" (slop.map fun n => .natural n.toUInt64))))
  | .multiMatch query fields fuzziness =>
      .single "multi_match" (.object
        (("query", .string query) :: (optional "fields" (fields.map .strings) ++
          optional "fuzziness" (fuzziness.map .string))))
  | .term field value boost =>
      .single "term" (.single field
        (.object [("value", value), ("boost", boostDocument boost)]))
  | .terms field values boost => termsDocument field values boost
  | .range field bounds => .single "range" (.single field bounds.document)
  | .present field => .single "exists" (.single "field" (.string field))
  | .wildcard field pattern =>
      .single "wildcard" (.single field (.single "value" (.string pattern)))
  | .regexp field pattern => .single "regexp" (.single field (.single "value" (.string pattern)))
  | .queryString query defaultField =>
      .single "query_string" (.object
        (("query", .string query) :: optional "default_field" (defaultField.map .string)))
  | .within path query =>
      .single "nested" (.object [("path", .string path), ("query", query.document)])
  | .compound must should filter =>
      boolDocument (documents must) (documents should) (documents filter)
  | .raw document => document

def documents : List Clause → List Json
  | [] => []
  | clause :: rest => clause.document :: documents rest

end

end Clause

def BoolQuery.document (query : BoolQuery) : Json := query.toClause.document

def SortKey.document (sort : SortKey) : Json := .single sort.field (.string sort.order.name)

namespace Aggregation

def termsDocument (field : String) (size : UInt64) : Json :=
  .single "terms" (.object [("field", .string field), ("size", .natural size)])

def filterDocument (path : String) (filter : String × List Json) : Json :=
  .single "terms" (.single (path ++ "." ++ filter.1) (.array filter.2))

/-- The filter bucket and the counts inside it carry the same name. -/
def filteredDocument (path resultKey bucketKey : String) (filters : List (String × List Json))
    (size : UInt64) : Json :=
  .single resultKey (.object [
    ("filter", .single "bool" (.single "should" (.single "bool"
      (.single "must" (.array (filters.map (filterDocument path))))))),
    ("aggs", .single resultKey (termsDocument (path ++ "." ++ bucketKey) size))])

def nestedDocument (path : String) (aggregations : Json) : Json :=
  .object [("nested", .single "path" (.string path)), ("aggs", aggregations)]

mutual

def document : Aggregation → Json
  | .terms field size => termsDocument field size
  | .metric kind field => .single kind.name (.single "field" (.string field))
  | .nested path aggregations => nestedDocument path (.object (documents aggregations))
  | .nestedFiltered path resultKey bucketKey filters size =>
      nestedDocument path (filteredDocument path resultKey bucketKey filters size)

def documents : List (String × Aggregation) → List (String × Json)
  | [] => []
  | (name, aggregation) :: rest => (name, aggregation.document) :: documents rest

end

end Aggregation

def Aggregations.document (aggregations : Aggregations) : Json :=
  .object (Aggregation.documents aggregations)

def Query.document (query : Query) : Json :=
  .object (("query", query.conditions.document) ::
    (optional "from" (query.offset.map .natural) ++
      optional "size" (query.limit.map .natural) ++
      (if query.sort.isEmpty then [] else [("sort", .array (query.sort.map SortKey.document))]) ++
      optional "fields" (query.fields.map .strings) ++
      optional "min_score" (query.minScore.map .float) ++
      (if query.aggregations.isEmpty then []
        else [("aggs", Aggregations.document query.aggregations)])))

end DocumentSearch
