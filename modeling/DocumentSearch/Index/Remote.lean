import DocumentSearch.Index.Configuration
import DocumentSearch.Index.Settings

/-!
The configuration that a backend reports for an index. The report is an object with one member,
which may carry another name than the one that was asked for, as when an alias was.
-/

namespace DocumentSearch.IndexConfiguration

def reportedPart (what : String) : Option Json → Except BackendError (Entries Json)
  | none => .ok []
  | some (.object entries) => .ok entries
  | some other => .error (.malformed (what ++ " is not an object: " ++ other.compact))

def ofReportedIndex (name : String) (index : Json) : Except BackendError IndexConfiguration := do
  let properties := (index.get? "mappings").bind (·.get? "properties")
  let mapping ← reportedPart "mappings.properties" properties
  let settings ← reportedPart "settings" (index.get? "settings")
  return ⟨name, mapping, Settings.normalize settings⟩

def ofReport (name : String) : Json → Except BackendError IndexConfiguration
  | .object [(_, index)] => ofReportedIndex name index
  | .object indices =>
      .error (.malformed ("'" ++ name ++ "' resolves to " ++ toString indices.length ++
        " indices, expected exactly one"))
  | other => .error (.malformed ("expected index object, got " ++ other.compact))

end DocumentSearch.IndexConfiguration
