import DocumentSearch.CommandLine.Configuration
import DocumentSearch.CommandLine.Failure
import DocumentSearch.CommandLine.Invocation
import DocumentSearch.Finder
import DocumentSearch.Index.Status

/-!
Running the program. A run prints text, may fail, and may find that an index needs work; it ends
with exit code 0 only if it neither failed nor found such an index. What was printed before a
failure stays printed.
-/

namespace DocumentSearch

structure Outcome where
  output : String := ""
  needsWork : Bool := false
  failure : Option Failure := none
deriving DecidableEq

namespace Outcome

def failed (failure : Failure) : Outcome := { failure := some failure }

def exitCode (outcome : Outcome) : Nat :=
  if outcome.failure.isSome || outcome.needsWork then 1 else 0

/-- One outcome after another that did not fail. -/
def followedBy (first second : Outcome) : Outcome :=
  ⟨first.output ++ second.output, first.needsWork || second.needsWork, second.failure⟩

end Outcome

namespace Run

open Backend (Exchanging)

def configurationFailure (error : ConfigurationError) : Failure :=
  match error with
  | .unreadable _ reason => ⟨error.message, [reason]⟩
  | .invalid _ => ⟨error.message, []⟩

def backendFor (configuration : Configuration) : Except Failure Backend :=
  match Backend.ofConfiguration configuration.backend with
  | .ok backend => .ok backend
  | .error error =>
      .error ⟨"Invalid backend url '" ++ configuration.backend.url ++ "'",
        error.message :: error.cause.toList⟩

def draftFor (configuration : Configuration) (arguments : QueryArguments) : Except Failure Draft :=
  (arguments.draft configuration.search.defaultFields).mapError fun error => ⟨error.message, []⟩

def requestDocument (request : SearchRequest) : Json :=
  .object [("index", .string request.index), ("body", request.body)]

/-- Prints the request that a search would send. -/
def compile (configuration : Configuration) (arguments : QueryArguments) : Outcome :=
  match draftFor configuration arguments with
  | .error failure => .failed failure
  | .ok draft =>
      match (Command.drafted draft).request with
      | .error error => .failed ⟨error.message, []⟩
      | .ok request => { output := (requestDocument request).pretty ++ "\n" }

def searchOutcome (index : String) : Except Error SearchResult → Outcome
  | .ok result => { output := result.document.pretty ++ "\n" }
  | .error error => .failed ⟨"Search on '" ++ index ++ "' failed", [error.message]⟩

def search (configuration : Configuration) (arguments : QueryArguments) : Exchanging Outcome :=
  match draftFor configuration arguments with
  | .error failure => .done (.failed failure)
  | .ok draft =>
      match backendFor configuration with
      | .error failure => .done (.failed failure)
      | .ok backend => do
          let result ← (Finder.find (.drafted draft)).relay backend.search
          return searchOutcome arguments.index result

/-- The named indexes, or all of them when none is named. -/
def select (configuration : Configuration) (names : List String) :
    Except Failure (List IndexConfiguration) :=
  if names.isEmpty then .ok configuration.indexes
  else names.mapM fun name =>
    match configuration.index? name with
    | some index => .ok index
    | none => .error ⟨"Index '" ++ name ++ "' is not configured", []⟩

def statusText (name : String) : IndexStatus → String
  | .absent => name ++ ": absent\n"
  | .upToDate => name ++ ": up-to-date\n"
  | .changed differences =>
      name ++ ": changed\n" ++
        String.join (differences.map fun difference => "  " ++ difference.text ++ "\n")

def statusOutcome (name : String) : Except Error IndexStatus → Outcome
  | .ok status => { output := statusText name status, needsWork := status.hasChanges }
  | .error error => .failed ⟨"Failed to check index '" ++ name ++ "'", [error.message]⟩

def checkIndex (backend : Backend) (index : IndexConfiguration) : Exchanging Outcome := do
  let status ← (IndexStatus.check .default index).relay backend.inspect
  return statusOutcome index.name status

/-- Checks indexes in turn up to the first whose check fails. -/
def checkIndexes (backend : Backend) : List IndexConfiguration → Exchanging Outcome
  | [] => .done {}
  | index :: rest => do
      let outcome ← checkIndex backend index
      if outcome.failure.isSome then return outcome
      else return outcome.followedBy (← checkIndexes backend rest)

def indexStatus (configuration : Configuration) (names : List String) : Exchanging Outcome :=
  match select configuration names with
  | .error failure => .done (.failed failure)
  | .ok [] => .done { output := "No indexes configured\n" }
  | .ok indexes =>
      match backendFor configuration with
      | .error failure => .done (.failed failure)
      | .ok backend => checkIndexes backend indexes

def subcommand (configuration : Configuration) : Subcommand → Exchanging Outcome
  | .compile arguments => .done (compile configuration arguments)
  | .search arguments => search configuration arguments
  | .indexStatus names => indexStatus configuration names

/-- Runs what was asked for, with what the path of the configuration leads to. -/
def invocation (invocation : Invocation) (content : FileContent) : Exchanging Outcome :=
  match Configuration.load invocation.configurationPath content with
  | .error error => .done (.failed (configurationFailure error))
  | .ok configuration => subcommand configuration invocation.subcommand

end Run

/-- What the program shows when it is asked for its version. -/
def versionText : String := "explorer 0.3.0\n"

end DocumentSearch
