import DocumentSearch.Backend
import DocumentSearch.Toml.Reader

/-!
The configuration of the command line. Every section and every key has a default, except that an
index needs a name; keys that are not known are ignored.
-/

namespace DocumentSearch

structure LoggingConfiguration where
  level : String := "info"
  format : String := "pretty"
deriving DecidableEq

namespace LoggingConfiguration

def record : Record LoggingConfiguration where
  name := "LoggingConfig"
  defaults := {}
  fields := [
    { name := "level"
      store := fun logging value => return { logging with level := ← value.asString } },
    { name := "format"
      store := fun logging value => return { logging with format := ← value.asString } }]

def document (logging : LoggingConfiguration) : Json :=
  .object [("level", .string logging.level), ("format", .string logging.format)]

end LoggingConfiguration

/-- Without any fields of its own a text is searched in all fields. -/
structure SearchConfiguration where
  defaultFields : List String := []
deriving DecidableEq

namespace SearchConfiguration

def record : Record SearchConfiguration where
  name := "SearchConfig"
  defaults := {}
  fields := [
    { name := "default_fields"
      store := fun search value =>
        return { search with defaultFields := ← value.asListOf Json.asString } }]

def document (search : SearchConfiguration) : Json :=
  .object [("default_fields", .strings search.defaultFields)]

end SearchConfiguration

structure Configuration where
  backend : BackendConfiguration := {}
  logging : LoggingConfiguration := {}
  search : SearchConfiguration := {}
  indexes : List IndexConfiguration := []

/-- What a path leads to. -/
inductive FileContent where
  | missing
  | text (content : String)
  | unreadable (reason : String)
deriving DecidableEq

inductive ConfigurationError where
  | unreadable (path reason : String)
  | invalid (path : String)
deriving DecidableEq

def ConfigurationError.message : ConfigurationError → String
  | .unreadable path _ => "Failed to read config " ++ Text.quoted path
  | .invalid path => "Invalid config " ++ Text.quoted path

namespace Configuration

def record : Record Configuration where
  name := "Config"
  defaults := {}
  fields := [
    { name := "elasticsearch"
      store := fun all value =>
        return { all with backend := ← BackendConfiguration.record.read .ignored value } },
    { name := "logging"
      store := fun all value =>
        return { all with logging := ← LoggingConfiguration.record.read .ignored value } },
    { name := "search"
      store := fun all value =>
        return { all with search := ← SearchConfiguration.record.read .ignored value } },
    { name := "indexes"
      store := fun all value =>
        return { all with
          indexes := ← value.asListOf (IndexConfiguration.record.read .ignored) } }]

def document (all : Configuration) : Json :=
  .object [("elasticsearch", all.backend.document), ("logging", all.logging.document),
    ("search", all.search.document),
    ("indexes", .array (all.indexes.map IndexConfiguration.document))]

/-- Reads the text of a configuration. -/
def ofText (text : String) : Option Configuration := do
  match record.read .ignored (← Toml.read text) with
  | .ok configuration => some configuration
  | .error _ => none

/-- The configuration at a path; one that is missing has all the defaults. -/
def load (path : String) : FileContent → Except ConfigurationError Configuration
  | .missing => .ok {}
  | .unreadable reason => .error (.unreadable path reason)
  | .text content =>
      match ofText content with
      | some configuration => .ok configuration
      | none => .error (.invalid path)

def index? (all : Configuration) (name : String) : Option IndexConfiguration :=
  all.indexes.find? (·.name = name)

end Configuration

end DocumentSearch
