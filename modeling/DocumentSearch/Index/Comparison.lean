import DocumentSearch.Index.Configuration
import DocumentSearch.Index.Equality
import DocumentSearch.Index.Settings
import DocumentSearch.Text.Split

/-!
What differs between the desired and the actual configuration of an index. Mappings are compared
in full and settings only under managed paths. Objects are compared member by member, so a
difference is reported at the deepest place that still has objects on both sides around it.
-/

namespace DocumentSearch

inductive DifferenceKind where
  | missingRemotely
  | onlyRemote
  | changed
deriving DecidableEq

def DifferenceKind.description : DifferenceKind → String
  | .missingRemotely => "missing on backend"
  | .onlyRemote => "only on backend"
  | .changed => "changed"

/-- Where a comparison starts: at the mapping or at a managed path of the settings. -/
inductive Root where
  | mapping
  | setting (path : List String)
deriving DecidableEq

def joinPath (names : List String) : String := String.intercalate "." names

def Root.label : Root → String
  | .mapping => "mapping"
  | .setting path => "settings." ++ joinPath path

/-- A difference below a root, reached by following `keys`. -/
structure Difference where
  root : Root
  keys : List String
  kind : DifferenceKind
deriving DecidableEq

namespace Difference

def path (difference : Difference) : String :=
  joinPath (difference.root.label :: difference.keys)

def text (difference : Difference) : String :=
  difference.path ++ " (" ++ difference.kind.description ++ ")"

end Difference

/-- The place of a difference below a value, and its kind. -/
abbrev Deviation := List String × DifferenceKind

namespace Deviation

def under (key : String) (deviation : Deviation) : Deviation := (key :: deviation.1, deviation.2)

def below (root : Root) (deviation : Deviation) : Difference := ⟨root, deviation.1, deviation.2⟩

end Deviation

namespace Json

/-- The members of `actual` that `desired` does not have. -/
def surplus (desired actual : Entries Json) : List Deviation :=
  (actual.filter fun entry => !desired.contains entry.1).map fun entry =>
    ([entry.1], .onlyRemote)

mutual

def deviations : Json → Json → List Deviation
  | .object desired, .object actual => entryDeviations desired actual ++ surplus desired actual
  | desired, actual => if desired.equivalent actual then [] else [([], .changed)]

def entryDeviations : List (String × Json) → Entries Json → List Deviation
  | [], _ => []
  | (key, value) :: rest, actual =>
      (match actual.get? key with
        | some other => (value.deviations other).map (Deviation.under key)
        | none => [([key], .missingRemotely)]) ++ entryDeviations rest actual

end

end Json

structure Comparator where
  managed : List (List String)

namespace Comparator

def defaultPaths : List String :=
  ["analysis", "analyzer", "char_filter", "filter", "filters", "normalizer", "tokenizer",
    "index.max_ngram_diff", "index.max_shingle_diff"]

def ofPaths (paths : List String) : Comparator := ⟨paths.map (Text.split '.')⟩

def default : Comparator := ofPaths defaultPaths

def paths (comparator : Comparator) : List String := comparator.managed.map joinPath

/-- The deviations at a place that either side may lack. -/
def lookupDeviations : Option Json → Option Json → List Deviation
  | none, none => []
  | some _, none => [([], .missingRemotely)]
  | none, some _ => [([], .onlyRemote)]
  | some desired, some actual => desired.deviations actual

def settingDifferences (desired actual : Entries Json) (path : List String) : List Difference :=
  (lookupDeviations (Settings.lookup desired path) (Settings.lookup actual path)).map
    (Deviation.below (.setting path))

def differences (comparator : Comparator) (desired actual : IndexConfiguration) :
    List Difference :=
  let desiredSettings := Settings.normalize desired.settings
  let actualSettings := Settings.normalize actual.settings
  ((Json.object desired.mapping).deviations (.object actual.mapping)).map
      (Deviation.below .mapping) ++
    comparator.managed.flatMap (settingDifferences desiredSettings actualSettings)

def hasChanges (comparator : Comparator) (desired actual : IndexConfiguration) : Bool :=
  !(comparator.differences desired actual).isEmpty

end Comparator

end DocumentSearch
