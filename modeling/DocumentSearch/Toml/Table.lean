import DocumentSearch.Json

/-!
Tables of a configuration while it is read. A table is declared by a header, implied by a longer
header, or made by a dotted key, and each of these allows different additions later. Keys that are
already taken cannot be taken again.
-/

namespace DocumentSearch.Toml

inductive TableKind where
  | declared
  | implied
  | dotted
deriving DecidableEq

/-- What a key stands for: a value, a table, or a list of declared tables. -/
inductive Node where
  | value (document : Json)
  | table (kind : TableKind) (entries : List (String × Node))
  | tables (elements : List (List (String × Node)))

structure Table where
  kind : TableKind
  entries : Entries Node

namespace Table

def root : Table := ⟨.declared, []⟩

def put (table : Table) (key : String) (node : Node) : Table :=
  { table with entries := table.entries.put key node }

/-- Changes the table at the end of a path and makes the tables that are missing on the way; a
list of tables leads on to its last one. A dotted path cannot lead through a declared table. -/
def within (dotted : Bool) (change : Table → Option Table) : List String → Table → Option Table
  | [], table => change table
  | key :: rest, table =>
      match table.entries.get? key with
      | none => do
          let inner ← within dotted change rest ⟨if dotted then .dotted else .implied, []⟩
          return table.put key (.table inner.kind inner.entries)
      | some (.value _) => none
      | some (.table kind entries) =>
          if dotted && kind = .declared then none
          else do
            let inner ← within dotted change rest ⟨kind, entries⟩
            return table.put key (.table inner.kind inner.entries)
      | some (.tables elements) => do
          let inner ← within dotted change rest ⟨.declared, ← elements.getLast?⟩
          return table.put key (.tables (elements.dropLast ++ [inner.entries]))

/-- Declares a table. One that was implied moves behind the other entries of its parent. -/
def declare (key : String) (parent : Table) : Option Table :=
  match parent.entries.get? key with
  | none => some (parent.put key (.table .declared []))
  | some (.table .implied entries) =>
      some { parent with entries := parent.entries.erase key ++ [(key, .table .declared entries)] }
  | _ => none

def declareElement (key : String) (parent : Table) : Option Table :=
  match parent.entries.get? key with
  | none => some (parent.put key (.tables [[]]))
  | some (.tables elements) => some (parent.put key (.tables (elements ++ [[]])))
  | _ => none

/-- Puts a value under a new key. Behind a dotted path the table has to be a dotted one. -/
def assignHere (behindPath : Bool) (key : String) (document : Json) (table : Table) :
    Option Table :=
  if (table.kind = .dotted) = behindPath && !table.entries.contains key then
    some (table.put key (.value document))
  else none

/-- Puts a value under a dotted key of the table that a header names. -/
def assign (header path : List String) (key : String) (document : Json) (table : Table) :
    Option Table :=
  within false (within true (assignHere (!path.isEmpty) key document) path) header table

end Table

mutual

def Node.document : Node → Json
  | .value document => document
  | .table _ entries => .object (documentEntries entries)
  | .tables elements => .array (documentElements elements)

def documentEntries : List (String × Node) → List (String × Json)
  | [] => []
  | (key, node) :: rest => (key, node.document) :: documentEntries rest

def documentElements : List (List (String × Node)) → List Json
  | [] => []
  | entries :: rest => .object (documentEntries entries) :: documentElements rest

end

def Table.document (table : Table) : Json := .object (documentEntries table.entries)

end DocumentSearch.Toml
