import DocumentSearch.Query

/-!
A search put together step by step. A step either sets a part of the draft, replacing what was set
before, or puts an entry for a field or an aggregation. The query is assembled at the end: the
free text joins the clauses that have to match, and the conditions on fields join the filters, so
the order of steps of different kinds does not matter.
-/

namespace DocumentSearch

structure Draft where
  index : Option String := none
  text : Option String := none
  searchFields : List String := []
  must : List Clause := []
  should : List Clause := []
  filter : List Clause := []
  equalities : Entries Json := []
  memberships : Entries (List Json) := []
  offset : Option UInt64 := none
  limit : Option UInt64 := none
  sort : List SortKey := []
  fields : Option (List String) := none
  aggregations : Aggregations := []

namespace Draft

inductive Step where
  | forIndex (name : String)
  | search (text : String)
  | searchFields (fields : List String)
  | must (clauses : List Clause)
  | should (clauses : List Clause)
  | filter (clauses : List Clause)
  | whereEq (field : String) (value : Json)
  | whereIn (field : String) (values : List Json)
  | offset (value : UInt64)
  | limit (value : UInt64)
  | sort (keys : List SortKey)
  | fields (names : List String)
  | aggregation (name : String) (definition : Aggregation)

def apply (draft : Draft) : Step → Draft
  | .forIndex name => { draft with index := some name }
  | .search text => { draft with text := some text }
  | .searchFields fields => { draft with searchFields := fields }
  | .must clauses => { draft with must := clauses }
  | .should clauses => { draft with should := clauses }
  | .filter clauses => { draft with filter := clauses }
  | .whereEq field value => { draft with equalities := draft.equalities.put field value }
  | .whereIn field values => { draft with memberships := draft.memberships.put field values }
  | .offset value => { draft with offset := some value }
  | .limit value => { draft with limit := some value }
  | .sort keys => { draft with sort := keys }
  | .fields names => { draft with fields := some names }
  | .aggregation name definition =>
      { draft with aggregations := draft.aggregations.put name definition }

def ofSteps (steps : List Step) : Draft := steps.foldl apply {}

/-- The clause for the free text; an empty text adds none. -/
def textClauses (draft : Draft) : List Clause :=
  match draft.text with
  | none => []
  | some text => if text.isEmpty then [] else [.fuzzyAcross text draft.searchFields]

def equalityClauses (draft : Draft) : List Clause :=
  draft.equalities.map fun entry => .exactly entry.1 entry.2

def membershipClauses (draft : Draft) : List Clause :=
  draft.memberships.map fun entry => .anyOf entry.1 entry.2

def query (draft : Draft) : Query where
  conditions :=
    { must := draft.must ++ draft.textClauses
      should := draft.should
      filter := draft.filter ++ draft.equalityClauses ++ draft.membershipClauses }
  offset := draft.offset
  limit := draft.limit
  sort := draft.sort
  fields := draft.fields
  minScore := none
  aggregations := draft.aggregations

end Draft

end DocumentSearch
