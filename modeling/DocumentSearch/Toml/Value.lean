import DocumentSearch.Toml.Quoted
import DocumentSearch.Toml.Scalar
import DocumentSearch.Toml.Table

/-!
Keys and values of a configuration. Arrays may run over several lines and hold comments, while
tables in braces stay on one line. Values nest at most 79 levels deep, and a dotted key has at
most 79 parts.
-/

namespace DocumentSearch.Toml

open Quoted (isSpace isPlain lineBreak?)

def maxNesting : Nat := 79

def isBareKeyChar (c : Char) : Bool := c.isAlphanum || c = '_' || c = '-'

def dropSpaces (chars : List Char) : List Char := chars.dropWhile isSpace

/-- What follows a comment, if its characters are allowed. -/
def dropComment (chars : List Char) : Option (List Char) :=
  let rest := chars.dropWhile isPlain
  if rest.isEmpty || (lineBreak? rest).isSome then some rest else none

/-- Drops blanks, line breaks and comments. -/
def dropFillerFrom : Nat → List Char → Option (List Char)
  | 0, chars => some chars
  | fuel + 1, chars =>
      match dropSpaces chars with
      | '#' :: rest => (dropComment rest).bind (dropFillerFrom fuel)
      | rest =>
          match lineBreak? rest with
          | some rest => dropFillerFrom fuel rest
          | none => some rest

def dropFiller (chars : List Char) : Option (List Char) := dropFillerFrom (chars.length + 1) chars

def readSimpleKey (chars : List Char) : Option (String × List Char) :=
  match chars with
  | '"' :: _ | '\'' :: _ => (Quoted.line? chars).map fun (key, rest) => (String.ofList key, rest)
  | _ =>
      let key := chars.takeWhile isBareKeyChar
      if key.isEmpty then none else some (String.ofList key, chars.dropWhile isBareKeyChar)

/-- The parts of a dotted key, with the blanks around them dropped. -/
def readKeyFrom : Nat → List Char → Option (List String × List Char)
  | 0, _ => none
  | fuel + 1, chars => do
      let (part, rest) ← readSimpleKey (dropSpaces chars)
      match dropSpaces rest with
      | '.' :: rest => do
          let (parts, rest) ← readKeyFrom fuel rest
          return (part :: parts, rest)
      | rest => return ([part], rest)

def readKey (chars : List Char) : Option (List String × List Char) := readKeyFrom maxNesting chars

/-- A path and the key at its end. -/
def splitPath (parts : List String) : Option (List String × String) :=
  parts.getLast?.map (parts.dropLast, ·)

def isScalarChar (c : Char) : Bool :=
  c.isAlphanum || c = '_' || c = '-' || c = '+' || c = '.' || c = ':'

/-- A word. A blank between a date and an hour belongs to it. -/
def scalarWord (chars : List Char) : List Char × List Char :=
  let word := chars.takeWhile isScalarChar
  let rest := chars.dropWhile isScalarChar
  match (DateTime.date? word), rest with
  | some _, ' ' :: a :: b :: ':' :: more =>
      let time := (a :: b :: ':' :: more)
      (word ++ ' ' :: time.takeWhile isScalarChar, time.dropWhile isScalarChar)
  | _, _ => (word, rest)

def readScalar (chars : List Char) : Option (Json × List Char) :=
  let (word, rest) := scalarWord chars
  (Scalar.read word).map (·, rest)

mutual

/-- Reads a value; `depth` counts the arrays and tables around it. -/
def readValue : Nat → Nat → List Char → Option (Json × List Char)
  | 0, _, _ => none
  | fuel + 1, depth, chars =>
      match chars with
      | '[' :: rest => if depth < maxNesting then readItems fuel (depth + 1) rest else none
      | '\x7b' :: rest =>
          if depth < maxNesting then
            match dropSpaces rest with
            | '\x7d' :: rest => some (.object [], rest)
            | rest => readEntries fuel (depth + 1) .root rest
          else none
      | '"' :: _ | '\'' :: _ =>
          (Quoted.read chars).map fun (text, rest) => (.string (String.ofList text), rest)
      | _ => readScalar chars

/-- Reads the items of an array up to its closing bracket. -/
def readItems : Nat → Nat → List Char → Option (Json × List Char)
  | 0, _, _ => none
  | fuel + 1, depth, chars => do
      match ← dropFiller chars with
      | ']' :: rest => return (.array [], rest)
      | chars => do
          let (item, rest) ← readValue fuel depth chars
          match ← dropFiller rest with
          | ']' :: rest => return (.array [item], rest)
          | ',' :: rest => do
              let (items, rest) ← readItems fuel depth rest
              match items with
              | .array items => return (.array (item :: items), rest)
              | _ => none
          | _ => none

/-- Reads the entries of a table in braces, of which there is at least one more. -/
def readEntries : Nat → Nat → Table → List Char → Option (Json × List Char)
  | 0, _, _, _ => none
  | fuel + 1, depth, table, chars => do
      let (parts, rest) ← readKey chars
      let (path, key) ← splitPath parts
      match rest with
      | '=' :: rest => do
          let (document, rest) ← readValue fuel depth (dropSpaces rest)
          let table ← table.assign [] path key document
          match dropSpaces rest with
          | ',' :: rest => readEntries fuel depth table rest
          | '\x7d' :: rest => return (table.document, rest)
          | _ => none
      | _ => none

end

end DocumentSearch.Toml
