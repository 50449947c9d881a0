import DocumentSearch.CommandLine.Options
import DocumentSearch.CommandLine.QueryArguments

/-!
What the arguments of the program ask for. The path of the configuration can be given before or
behind the subcommand, and the one behind it counts.
-/

namespace DocumentSearch

inductive Subcommand where
  | compile (arguments : QueryArguments)
  | search (arguments : QueryArguments)
  | indexStatus (names : List String)

structure Invocation where
  configurationPath : String
  subcommand : Subcommand

/-- The answer to the arguments: something to do, something to show, or a refusal. -/
inductive Interpretation where
  | run (invocation : Invocation)
  | help
  | version
  | misuse

namespace Invocation

/-- A natural number of 64 bits, perhaps with a plus sign. -/
def word? (text : String) : Option UInt64 :=
  let digits := match text.toList with
    | '+' :: digits => digits
    | digits => digits
  if digits.isEmpty || !digits.all Char.isDigit then none
  else
    let value := digits.foldl (fun value c => 10 * value + (c.toNat - 48)) 0
    if value < UInt64.size then some (UInt64.ofNat value) else none

def configurationRule : OptionRule :=
  { long := "config", letter := some 'c', accepts := fun path => !path.isEmpty }

def topLevel : OptionLevel where
  options := [configurationRule]
  hasVersion := true
  subcommands := ["compile", "search", "index-status", "help"]

def queryLevel : OptionLevel where
  options := [configurationRule,
    { long := "index", letter := some 'i' },
    { long := "query", letter := some 'q' },
    { long := "search-field", repeatable := true },
    { long := "where", repeatable := true },
    { long := "where-in", repeatable := true },
    { long := "offset", accepts := fun text => (word? text).isSome },
    { long := "limit", accepts := fun text => (word? text).isSome },
    { long := "sort", repeatable := true },
    { long := "field", repeatable := true },
    { long := "terms-agg", repeatable := true },
    { long := "metric-agg", repeatable := true }]

def statusLevel : OptionLevel where
  options := [configurationRule, { long := "index", letter := some 'i', repeatable := true }]

/-- Only the index has to be given. -/
def queryArguments? (given : GivenOptions) : Option QueryArguments :=
  (given.value? "index").map fun index => {
    index
    text := given.value? "query"
    searchFields := given.values "search-field"
    wheres := given.values "where"
    whereIns := given.values "where-in"
    offset := (given.value? "offset").bind word?
    limit := (given.value? "limit").bind word?
    sort := given.values "sort"
    fields := given.values "field"
    termsAggregations := given.values "terms-agg"
    metricAggregations := given.values "metric-agg" }

/-- Reads the level of a subcommand. -/
def ofLevel (level : OptionLevel) (subcommand : GivenOptions → Option Subcommand)
    (defaultPath : String) (outer : GivenOptions) (arguments : List String) : Interpretation :=
  match level.read arguments with
  | .help => .help
  | .version => .version
  | .misuse => .misuse
  | .complete given _ =>
      let path := (given.value? "config").or (outer.value? "config") |>.getD defaultPath
      match subcommand given with
      | some subcommand => .run ⟨path, subcommand⟩
      | none => .misuse

/-- Help on the program or on one of its subcommands. -/
def helpOn (names : List String) : Interpretation :=
  match names with
  | [] => .help
  | [name] => if topLevel.subcommands.contains name then .help else .misuse
  | _ => .misuse

def interpret (defaultPath : String) (arguments : List String) : Interpretation :=
  match topLevel.read arguments with
  | .help => .help
  | .version => .version
  | .misuse => .misuse
  | .complete _ [] => .misuse
  | .complete outer (name :: rest) =>
      match name with
      | "compile" =>
          ofLevel queryLevel (fun given => (queryArguments? given).map .compile) defaultPath
            outer rest
      | "search" =>
          ofLevel queryLevel (fun given => (queryArguments? given).map .search) defaultPath
            outer rest
      | "index-status" =>
          ofLevel statusLevel (fun given => some (.indexStatus (given.values "index"))) defaultPath
            outer rest
      | _ => helpOn rest

end Invocation

end DocumentSearch
