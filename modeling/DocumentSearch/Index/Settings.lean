import DocumentSearch.Json

/-!
The settings of an index as a tree. Analysis settings may stand at the top or under `index`;
normalized settings have them at the top only, and those at the top win.
-/

namespace DocumentSearch.Settings

/-- The settings without `index.analysis`, whose place the last member of `index` takes, and what
stood there. -/
def withoutIndexAnalysis (settings : Entries Json) : Entries Json × Option Json :=
  match settings.get? "index" with
  | some (.object index) =>
      (settings.put "index" (.object (Entries.swapRemove index "analysis")),
        Entries.get? index "analysis")
  | _ => (settings, none)

def normalize (settings : Entries Json) : Entries Json :=
  match withoutIndexAnalysis settings with
  | (settings, some analysis) => settings.putNew "analysis" analysis
  | (settings, none) => settings

/-- The value at the end of a path of names. -/
def follow : List String → Json → Option Json
  | [], value => some value
  | name :: rest, value => (value.get? name).bind (follow rest)

def lookup (settings : Entries Json) (path : List String) : Option Json :=
  follow path (.object settings)

end DocumentSearch.Settings
