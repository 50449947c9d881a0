/-!
Named values in the order in which their names were first put. Putting a value under a name that
is already there replaces the value where it stands. The members of a JSON object, the
aggregations of a query and the conditions of a draft are all entries.
-/

namespace DocumentSearch

abbrev Entries (α : Type) := List (String × α)

namespace Entries

variable {α : Type}

def get? : Entries α → String → Option α
  | [], _ => none
  | (key, value) :: rest, name => if key = name then some value else get? rest name

def names (entries : Entries α) : List String := entries.map Prod.fst

def contains (entries : Entries α) (name : String) : Bool := (entries.get? name).isSome

/-- Replaces the value under `name` where it stands, or appends a new entry. -/
def put : Entries α → String → α → Entries α
  | [], name, value => [(name, value)]
  | (key, old) :: rest, name, value =>
      if key = name then (key, value) :: rest else (key, old) :: put rest name value

def ofPairs (pairs : List (String × α)) : Entries α :=
  pairs.foldl (fun entries pair => entries.put pair.1 pair.2) []

/-- Appends an entry unless the name is already taken. -/
def putNew (entries : Entries α) (name : String) (value : α) : Entries α :=
  if entries.contains name then entries else entries.put name value

/-- The last element in front of the others. -/
def lastToFront (entries : Entries α) : Entries α :=
  match entries.getLast? with
  | none => []
  | some last => last :: entries.dropLast

/-- Takes out the entry under `name`. The last entry fills the gap, so the others stay put. -/
def swapRemove : Entries α → String → Entries α
  | [], _ => []
  | (key, value) :: rest, name =>
      if key = name then lastToFront rest else (key, value) :: swapRemove rest name

/-- Takes out the entry under `name` and closes the gap. -/
def erase (entries : Entries α) (name : String) : Entries α :=
  entries.filter fun entry => entry.1 != name

end Entries

end DocumentSearch
