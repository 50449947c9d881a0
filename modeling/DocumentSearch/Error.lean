/-!
What can go wrong between a search command and its result, by cause. `BackendError` is what a
backend or the way to it reports; `Error` adds the caller's mistakes and the responses that do not
answer the request that was sent.
-/

namespace DocumentSearch

inductive BackendError where
  | transport (reason : String)
  | status (code : Nat) (reason : String)
  | malformed (reason : String)
deriving DecidableEq

def BackendError.message : BackendError → String
  | .transport reason => "Transport error: " ++ reason
  | .status code reason => "Backend returned status " ++ toString code ++ ": " ++ reason
  | .malformed reason => "Malformed backend response: " ++ reason

inductive Error where
  | invalidArgument (reason : String)
  | backend (error : BackendError)
  | decode (reason : String)
deriving DecidableEq

def Error.message : Error → String
  | .invalidArgument reason => "Invalid argument: " ++ reason
  | .backend error => error.message
  | .decode reason => "Decode error: " ++ reason

/-- A name that is not one of a fixed set of names. -/
inductive UnknownName where
  | sortOrder (name : String)
  | metricKind (name : String)
deriving DecidableEq

def UnknownName.message : UnknownName → String
  | .sortOrder name => "unknown sort direction '" ++ name ++ "'"
  | .metricKind name => "unknown metric aggregation '" ++ name ++ "'"

end DocumentSearch
