import DocumentSearch.Dialogue
import DocumentSearch.Index.Comparison

/-!
Whether an index is out of date. The backend is asked once for the actual configuration. An index
that is absent counts as changed; a configuration of another index is a mistake of the backend's
adapter and not a status.
-/

namespace DocumentSearch

inductive IndexStatus where
  | absent
  | upToDate
  | changed (differences : List Difference)
deriving DecidableEq

def IndexStatus.hasChanges : IndexStatus → Bool
  | .upToDate => false
  | _ => true

/-- Asks for the actual configuration of an index, which may be absent. -/
abbrev Inspecting :=
  Dialogue IndexConfiguration (Except BackendError (Option IndexConfiguration))

namespace IndexStatus

def otherIndex (actual desired : String) : Error :=
  .invalidArgument ("adapter returned configuration for index '" ++ actual ++ "' while '" ++
    desired ++ "' was requested")

def ofDifferences (differences : List Difference) : IndexStatus :=
  if differences.isEmpty then .upToDate else .changed differences

def ofAnswer (comparator : Comparator) (desired : IndexConfiguration) :
    Except BackendError (Option IndexConfiguration) → Except Error IndexStatus
  | .error error => .error (.backend error)
  | .ok none => .ok .absent
  | .ok (some actual) =>
      if actual.name = desired.name then .ok (ofDifferences (comparator.differences desired actual))
      else .error (otherIndex actual.name desired.name)

def check (comparator : Comparator) (desired : IndexConfiguration) :
    Inspecting (Except Error IndexStatus) :=
  .ask desired fun answer => .done (ofAnswer comparator desired answer)

def checkChanged (comparator : Comparator) (desired : IndexConfiguration) :
    Inspecting (Except Error Bool) :=
  (check comparator desired).bind fun status => .done (status.map hasChanges)

end IndexStatus

end DocumentSearch
