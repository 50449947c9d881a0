import DocumentSearch.Error

/-!
Sort directives. An order is named without regard to the case of ASCII letters.
-/

namespace DocumentSearch

inductive SortOrder where
  | ascending
  | descending
deriving DecidableEq

namespace SortOrder

def name : SortOrder → String
  | ascending => "asc"
  | descending => "desc"

def ofName (name : String) : Except UnknownName SortOrder :=
  let lower := String.ofList (name.toList.map Char.toLower)
  if lower = "asc" || lower = "ascending" then .ok ascending
  else if lower = "desc" || lower = "descending" then .ok descending
  else .error (.sortOrder lower)

end SortOrder

structure SortKey where
  field : String
  order : SortOrder
deriving DecidableEq

end DocumentSearch
