import DocumentSearch.Json.Writer
import DocumentSearch.Text.Quoted

/-!
Records read from documents. A record is described by its fields in order; each field stores what
it reads into a value of the record that starts out with the defaults. From an object the members
are read in document order, so the first member that fails decides the error. From an array the
fields are read by position.
-/

namespace DocumentSearch

inductive RecordError where
  | invalidType (found : Json) (wanted : String)
  | invalidValue (found : Json) (wanted : String)
  | missingField (name : String)
  | duplicateField (name : String)
  | invalidLength (length : Nat) (wanted : String)
  | noVariant (name : String)

namespace RecordError

def describe : Json → String
  | .null => "null"
  | .bool value => "boolean `" ++ (if value then "true" else "false") ++ "`"
  | .number (.float x) => "floating point `" ++ (Number.float x).text ++ "`"
  | .number n => "integer `" ++ n.text ++ "`"
  | .string text => "string " ++ Text.quoted text
  | .array _ => "sequence"
  | .object _ => "map"

def message : RecordError → String
  | .invalidType found wanted => "invalid type: " ++ describe found ++ ", expected " ++ wanted
  | .invalidValue found wanted => "invalid value: " ++ describe found ++ ", expected " ++ wanted
  | .missingField name => "missing field `" ++ name ++ "`"
  | .duplicateField name => "duplicate field `" ++ name ++ "`"
  | .invalidLength length wanted =>
      "invalid length " ++ toString length ++ ", expected " ++ wanted
  | .noVariant name => "data did not match any variant of untagged enum " ++ name

end RecordError

namespace Json

def asString : Json → Except RecordError String
  | .string text => .ok text
  | other => .error (.invalidType other "a string")

def asNatural : Json → Except RecordError UInt64
  | .number (.natural n) => .ok n
  | .number (.negative n) => .error (.invalidValue (.number (.negative n)) "u64")
  | other => .error (.invalidType other "u64")

def asFloat : Json → Except RecordError Binary64
  | .number n => .ok n.toBinary64
  | other => .error (.invalidType other "f64")

def asArray : Json → Except RecordError (List Json)
  | .array items => .ok items
  | other => .error (.invalidType other "a sequence")

def asEntries : Json → Except RecordError (Entries Json)
  | .object entries => .ok entries
  | other => .error (.invalidType other "a map")

def asOption {α : Type} (read : Json → Except RecordError α) (document : Json) :
    Except RecordError (Option α) :=
  match document with
  | .null => .ok none
  | other => (read other).map some

def asListOf {α : Type} (read : Json → Except RecordError α) (document : Json) :
    Except RecordError (List α) := do
  (← document.asArray).mapM read

end Json

/-- A field of a record of type `σ`. Only a field that is not required has a default. -/
structure Field (σ : Type) where
  name : String
  synonyms : List String := []
  required : Bool := false
  store : σ → Json → Except RecordError σ

def Field.answersTo {σ : Type} (field : Field σ) (name : String) : Bool :=
  field.name == name || field.synonyms.contains name

/-- What an array may hold beyond the fields of a record. -/
inductive Excess where
  | refused
  | ignored
deriving DecidableEq

structure Record (σ : Type) where
  name : String
  fields : List (Field σ)
  defaults : σ

namespace Record

variable {σ : Type}

def title (record : Record σ) : String := "struct " ++ record.name

def fieldFor (record : Record σ) (name : String) : Option (Field σ) :=
  record.fields.find? (·.answersTo name)

/-- A value in the making: what has been stored and the fields that have stored it. -/
structure Partly (σ : Type) where
  value : σ
  stored : List String

/-- Reads one member; `keep` says what becomes of a member that is no field. -/
def readEntry (record : Record σ) (keep : σ → String × Json → σ) (partly : Partly σ)
    (entry : String × Json) : Except RecordError (Partly σ) :=
  match record.fieldFor entry.1 with
  | none => .ok { partly with value := keep partly.value entry }
  | some field =>
      if partly.stored.contains field.name then .error (.duplicateField field.name)
      else do
        let value ← field.store partly.value entry.2
        return ⟨value, field.name :: partly.stored⟩

def complete (record : Record σ) (partly : Partly σ) : Except RecordError σ :=
  match record.fields.find? fun field => field.required && !partly.stored.contains field.name with
  | some field => .error (.missingField field.name)
  | none => .ok partly.value

def ofEntries (record : Record σ) (keep : σ → String × Json → σ) (entries : Entries Json) :
    Except RecordError σ := do
  record.complete (← entries.foldlM (record.readEntry keep) ⟨record.defaults, []⟩)

/-- Reads fields by position; `read` counts the items read so far. -/
def ofItemsFrom (record : Record σ) (excess : Excess) (length : Nat) (value : σ) :
    List (Field σ) → List Json → Except RecordError σ
  | [], rest =>
      if excess = .ignored || rest.isEmpty then .ok value
      else .error (.invalidLength length "fewer elements in array")
  | field :: fields, [] =>
      if field.required then
        .error (.invalidLength (record.fields.length - (field :: fields).length)
          (record.title ++ " with " ++ toString record.fields.length ++
            (if record.fields.length = 1 then " element" else " elements")))
      else ofItemsFrom record excess length value fields []
  | field :: fields, item :: items => do
      ofItemsFrom record excess length (← field.store value item) fields items

def ofItems (record : Record σ) (excess : Excess) (items : List Json) : Except RecordError σ :=
  ofItemsFrom record excess items.length record.defaults record.fields items

/-- Reads a record from an object or an array; members that are no fields are ignored. -/
def read (record : Record σ) (excess : Excess) : Json → Except RecordError σ
  | .object entries => record.ofEntries (fun value _ => value) entries
  | .array items => record.ofItems excess items
  | other => .error (.invalidType other record.title)

/-- Reads a record from an object only, and keeps the members that are no fields. -/
def readKeeping (record : Record σ) (keep : σ → String × Json → σ) : Json → Except RecordError σ
  | .object entries => record.ofEntries keep entries
  | other => .error (.invalidType other record.title)

end Record

end DocumentSearch
