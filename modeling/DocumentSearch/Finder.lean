import DocumentSearch.Command
import DocumentSearch.Dialogue
import DocumentSearch.Response

/-!
Running a search: the index and the document of the command are put to a backend once, and the
reply is decoded against the aggregations of that command. A command without an index asks nothing.
-/

namespace DocumentSearch

abbrev Searching := Dialogue SearchRequest (Except BackendError Json)

namespace Finder

def decoded (query : Query) (response : Json) : Except Error SearchResult :=
  match Response.result query.aggregations response with
  | .ok result => .ok result
  | .error error => .error (.decode error.message)

def find (command : Command) : Searching (Except Error SearchResult) :=
  match command.requiredIndex with
  | .error error => .done (.error error)
  | .ok index => .ask ⟨index, command.query.document⟩ fun
      | .error error => .done (.error (.backend error))
      | .ok response => .done (decoded command.query response)

end Finder

end DocumentSearch
