import DocumentSearch.Draft
import DocumentSearch.Query.Document

/-!
Search commands and the requests they stand for. A command states its index and its query, or is a
draft that determines both. Only a command with an index that is not empty makes a request.
-/

namespace DocumentSearch

structure SearchCommand where
  index : Option String := none
  query : Option Query := none

/-- A command without a query asks for everything. -/
def SearchCommand.queryOrDefault (command : SearchCommand) : Query := command.query.getD {}

inductive Command where
  | stated (command : SearchCommand)
  | drafted (draft : Draft)

/-- A document to send to the search of one index. -/
structure SearchRequest where
  index : String
  body : Json

namespace Command

def index : Command → Option String
  | .stated command => command.index
  | .drafted draft => draft.index

def query : Command → Query
  | .stated command => command.queryOrDefault
  | .drafted draft => draft.query

def missingIndex : Error := .invalidArgument "an index is required to search"

def requiredIndex (command : Command) : Except Error String :=
  match command.index with
  | none => .error missingIndex
  | some index => if index.isEmpty then .error missingIndex else .ok index

def request (command : Command) : Except Error SearchRequest := do
  let index ← command.requiredIndex
  return ⟨index, command.query.document⟩

end Command

end DocumentSearch
