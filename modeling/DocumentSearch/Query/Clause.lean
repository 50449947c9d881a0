import DocumentSearch.Json

/-!
The conditions of a boolean query. Clauses nest: `within` scopes a clause to the objects of a
nested field, and `compound` is a boolean query in the place of a clause.
-/

namespace DocumentSearch

/-- Bounds of a range; a bound that is not set is not written. -/
structure RangeBounds where
  gt : Option Json := none
  gte : Option Json := none
  lt : Option Json := none
  lte : Option Json := none

namespace RangeBounds

def isEmpty (bounds : RangeBounds) : Bool :=
  bounds.gt.isNone && bounds.gte.isNone && bounds.lt.isNone && bounds.lte.isNone

end RangeBounds

inductive Clause where
  | matching (field : String) (query : Json) (fuzziness : Option String)
  | phrase (field : String) (query : String) (slop : Option UInt32)
  | multiMatch (query : String) (fields : Option (List String)) (fuzziness : Option String)
  | term (field : String) (value : Json) (boost : Option Binary64)
  | terms (field : String) (values : List Json) (boost : Option Binary64)
  | range (field : String) (bounds : RangeBounds)
  | present (field : String)
  | wildcard (field : String) (pattern : String)
  | regexp (field : String) (pattern : String)
  | queryString (query : String) (defaultField : Option String)
  | within (path : String) (query : Clause)
  | compound (must should filter : List Clause)
  | raw (document : Json)

namespace Clause

def defaultFuzziness : String := "auto"

def defaultBoost : Binary64 := Binary64.ofNat 1

def fuzzy (field : String) (query : Json) : Clause :=
  .matching field query (some defaultFuzziness)

/-- Matches text across `fields`; no fields at all stands for every field. -/
def fuzzyAcross (query : String) (fields : List String) : Clause :=
  .multiMatch query (if fields.isEmpty then none else some fields) (some defaultFuzziness)

def exactly (field : String) (value : Json) : Clause := .term field value none

def anyOf (field : String) (values : List Json) : Clause := .terms field values none

/-- Sets the boost of a clause on exact values; other clauses stay as they are. -/
def withBoost (boost : Binary64) : Clause → Clause
  | .term field value _ => .term field value (some boost)
  | .terms field values _ => .terms field values (some boost)
  | clause => clause

end Clause

/-- Clauses that have to match, that may match, and that restrict without scoring. -/
structure BoolQuery where
  must : List Clause := []
  should : List Clause := []
  filter : List Clause := []

namespace BoolQuery

def isEmpty (query : BoolQuery) : Bool :=
  query.must.isEmpty && query.should.isEmpty && query.filter.isEmpty

def toClause (query : BoolQuery) : Clause := .compound query.must query.should query.filter

end BoolQuery

end DocumentSearch
