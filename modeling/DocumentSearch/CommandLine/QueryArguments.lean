import DocumentSearch.Command
import DocumentSearch.Json.Reader
import DocumentSearch.Text.Blank
import DocumentSearch.Text.Split

/-!
The arguments that describe a search, each in a small notation of its own, and the draft that they
stand for. The notations are read in a fixed order, and the first argument that does not follow
its notation decides the error.
-/

namespace DocumentSearch

structure QueryArguments where
  index : String
  text : Option String := none
  searchFields : List String := []
  wheres : List String := []
  whereIns : List String := []
  offset : Option UInt64 := none
  limit : Option UInt64 := none
  sort : List String := []
  fields : List String := []
  termsAggregations : List String := []
  metricAggregations : List String := []

inductive ArgumentError where
  | notAPair (separator : Char) (argument : String)
  | unknownName (error : UnknownName)
deriving DecidableEq

def ArgumentError.message : ArgumentError → String
  | .notAPair separator argument =>
      "Expected KEY" ++ String.singleton separator ++ "VALUE, got '" ++ argument ++ "'"
  | .unknownName error => error.message

namespace QueryArguments

/-- The parts before and after the first separator; the part before it is not empty. -/
def pair (separator : Char) (argument : String) : Except ArgumentError (String × String) :=
  match Text.splitOnce separator argument with
  | none => .error (.notAPair separator argument)
  | some (key, value) =>
      if key.isEmpty then .error (.notAPair separator argument) else .ok (key, value)

/-- Numbers and booleans keep their type; any other text is a string. -/
def value (raw : String) : Json :=
  match Json.read raw with
  | some (.number n) => .number n
  | some (.bool b) => .bool b
  | _ => .string raw

def whereStep (argument : String) : Except ArgumentError Draft.Step := do
  let (field, raw) ← pair '=' argument
  return .whereEq field (value raw)

def whereInStep (argument : String) : Except ArgumentError Draft.Step := do
  let (field, raw) ← pair '=' argument
  return .whereIn field ((Text.split ',' raw).map fun piece => value (Text.trim piece))

/-- A field, or a field and an order; without an order the sort is ascending. -/
def sortKey (argument : String) : Except ArgumentError SortKey :=
  match Text.splitOnce ':' argument with
  | none => .ok ⟨argument, .ascending⟩
  | some (field, order) => do
      return ⟨field, ← (SortOrder.ofName order).mapError .unknownName⟩

def sortSteps (arguments : List String) : Except ArgumentError (List Draft.Step) := do
  let keys ← arguments.mapM sortKey
  return if keys.isEmpty then [] else [.sort keys]

def termsStep (argument : String) : Except ArgumentError Draft.Step := do
  let (name, field) ← pair '=' argument
  return .aggregation name (.terms field Aggregation.defaultSize)

def metricStep (argument : String) : Except ArgumentError Draft.Step := do
  let (name, definition) ← pair '=' argument
  let (kind, field) ← pair ':' definition
  return .aggregation name (.metric (← (MetricKind.ofName kind).mapError .unknownName) field)

/-- Search fields that are given replace the default ones. -/
def searchFieldsOr (arguments : QueryArguments) (defaults : List String) : List String :=
  if arguments.searchFields.isEmpty then defaults else arguments.searchFields

def steps (arguments : QueryArguments) (defaultFields : List String) :
    Except ArgumentError (List Draft.Step) := do
  let wheres ← arguments.wheres.mapM whereStep
  let whereIns ← arguments.whereIns.mapM whereInStep
  let sort ← sortSteps arguments.sort
  let termsAggregations ← arguments.termsAggregations.mapM termsStep
  let metricAggregations ← arguments.metricAggregations.mapM metricStep
  return [.forIndex arguments.index, .searchFields (arguments.searchFieldsOr defaultFields)] ++
    arguments.text.toList.map .search ++ wheres ++ whereIns ++
    arguments.offset.toList.map .offset ++ arguments.limit.toList.map .limit ++ sort ++
    (if arguments.fields.isEmpty then [] else [.fields arguments.fields]) ++
    termsAggregations ++ metricAggregations

def draft (arguments : QueryArguments) (defaultFields : List String) :
    Except ArgumentError Draft := do
  return Draft.ofSteps (← arguments.steps defaultFields)

end QueryArguments

end DocumentSearch
