import DocumentSearch.Text.Split

/-!
Failures that end a run, with the causes behind them. A single cause stands by itself, several are
numbered, and lines after the first of a cause are indented like it.
-/

namespace DocumentSearch

structure Failure where
  message : String
  causes : List String := []
deriving DecidableEq

namespace Failure

def indented (first later : String) (cause : String) : String :=
  "\n" ++ first ++ String.intercalate ("\n" ++ later) (Text.split '\n' cause)

def numbered (number : Nat) (cause : String) : String :=
  let digits := toString number
  let margin := String.ofList (List.replicate (5 - digits.length) ' ')
  indented (margin ++ digits ++ ": ") "       " cause

def numberedFrom (number : Nat) : List String → String
  | [] => ""
  | cause :: rest => numbered number cause ++ numberedFrom (number + 1) rest

def causesText : List String → String
  | [] => ""
  | [cause] => "\n\nCaused by:" ++ indented "    " "    " cause
  | causes => "\n\nCaused by:" ++ numberedFrom 0 causes

def text (failure : Failure) : String := failure.message ++ causesText failure.causes

end Failure

end DocumentSearch
