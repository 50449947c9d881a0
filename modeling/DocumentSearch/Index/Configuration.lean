import DocumentSearch.Error
import DocumentSearch.Json.Record

/-!
The configuration of an index: the mapping of its fields and its settings.
-/

namespace DocumentSearch

structure IndexConfiguration where
  name : String
  mapping : Entries Json := []
  settings : Entries Json := []

namespace IndexConfiguration

/-- A part of a configuration; null stands for an empty one. -/
def part (index what : String) : Json → Except Error (Entries Json)
  | .object entries => .ok entries
  | .null => .ok []
  | other => .error (.invalidArgument
      (what ++ " of index '" ++ index ++ "' must be an object, got " ++ other.compact))

def ofValues (name : String) (mapping settings : Json) : Except Error IndexConfiguration := do
  return ⟨name, ← part name "mapping" mapping, ← part name "settings" settings⟩

def record : Record IndexConfiguration where
  name := "IndexConfiguration"
  defaults := { name := "" }
  fields := [
    { name := "name"
      required := true
      store := fun index value => return { index with name := ← value.asString } },
    { name := "mapping"
      synonyms := ["properties"]
      store := fun index value => return { index with mapping := ← value.asEntries } },
    { name := "settings"
      store := fun index value => return { index with settings := ← value.asEntries } }]

def document (index : IndexConfiguration) : Json :=
  .object [("name", .string index.name), ("mapping", .object index.mapping),
    ("settings", .object index.settings)]

end IndexConfiguration

end DocumentSearch
