import DocumentSearch.Toml.Value

/-!
Reading a configuration: a sequence of lines, each blank, a header of a table, or a key with its
value, which alone may run over several lines. A mark of the byte order at the beginning is
skipped.
-/

namespace DocumentSearch.Toml

open Quoted (lineBreak?)

/-- The tables read so far and the path of the current one. -/
structure Reading where
  table : Table
  header : List String

/-- What follows the end of a line, with an optional comment before it. -/
def endLine (chars : List Char) : Option (List Char) := do
  let rest ← match dropSpaces chars with
    | '#' :: rest => dropComment rest
    | rest => some rest
  if rest.isEmpty then some [] else lineBreak? rest

def readHeader (reading : Reading) (chars : List Char) : Option (Reading × List Char) := do
  let (parts, rest) ← readKey chars
  let (path, key) ← splitPath parts
  match rest with
  | ']' :: rest =>
      return (⟨← Table.within false (Table.declare key) path reading.table, parts⟩, rest)
  | _ => none

def readElementHeader (reading : Reading) (chars : List Char) :
    Option (Reading × List Char) := do
  let (parts, rest) ← readKey chars
  let (path, key) ← splitPath parts
  match rest with
  | ']' :: ']' :: rest =>
      return (⟨← Table.within false (Table.declareElement key) path reading.table, parts⟩, rest)
  | _ => none

def readAssignment (reading : Reading) (chars : List Char) : Option (Reading × List Char) := do
  let (parts, rest) ← readKey chars
  let (path, key) ← splitPath parts
  match rest with
  | '=' :: rest => do
      let (document, rest) ← readValue (2 * rest.length + 2) 0 (dropSpaces rest)
      return ({ reading with table := ← reading.table.assign reading.header path key document },
        rest)
  | _ => none

/-- Reads the line at the front, if it is not blank. -/
def readLine (reading : Reading) (chars : List Char) : Option (Reading × List Char) :=
  match chars with
  | [] | '#' :: _ | '\n' :: _ | '\r' :: _ => some (reading, chars)
  | '[' :: '[' :: rest => readElementHeader reading rest
  | '[' :: rest => readHeader reading rest
  | _ => readAssignment reading chars

def readLines : Nat → Reading → List Char → Option Table
  | _, reading, [] => some reading.table
  | 0, _, _ :: _ => none
  | fuel + 1, reading, chars => do
      let (reading, rest) ← readLine reading (dropSpaces chars)
      readLines fuel reading (← endLine rest)

/-- Reads a whole text. -/
def read (text : String) : Option Json :=
  let chars := match text.toList with
    | '\uFEFF' :: rest => rest
    | chars => chars
  (readLines (chars.length + 1) ⟨.root, []⟩ chars).map Table.document

end DocumentSearch.Toml
