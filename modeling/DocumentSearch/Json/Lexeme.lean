/-!
The pieces of a document's text: punctuation marks, quoted texts, and words, which are the maximal
runs of other characters that are not blank. The pieces are found from left to right by one step
for each character.
-/

namespace DocumentSearch.Json

inductive Mark where
  | openObject
  | closeObject
  | openArray
  | closeArray
  | colon
  | comma
deriving DecidableEq

def Mark.ofChar? : Char → Option Mark
  | '\x7b' => some .openObject
  | '\x7d' => some .closeObject
  | '[' => some .openArray
  | ']' => some .closeArray
  | ':' => some .colon
  | ',' => some .comma
  | _ => none

/-- A quoted text is kept as it is written between its quotes. -/
inductive Lexeme where
  | punctuation (mark : Mark)
  | word (chars : List Char)
  | quoted (chars : List Char)
deriving DecidableEq

namespace Lexeme

/-- What has been read of the piece in progress, the latest character first. -/
inductive Pending where
  | nothing
  | word (chars : List Char)
  | quoted (chars : List Char)
  | escape (chars : List Char)

/-- The pieces found so far, the latest first, and the piece in progress. -/
structure Scan where
  found : List Lexeme
  pending : Pending

def isBlank (c : Char) : Bool := c = ' ' || c = '\t' || c = '\n' || c = '\r'

/-- Reads a character that is not inside a quoted text. -/
def Scan.outside (found : List Lexeme) (word : List Char) (c : Char) : Scan :=
  let found := if word.isEmpty then found else .word word.reverse :: found
  if isBlank c then ⟨found, .nothing⟩
  else if c = '"' then ⟨found, .quoted []⟩
  else match Mark.ofChar? c with
    | some mark => ⟨.punctuation mark :: found, .nothing⟩
    | none => ⟨found, .nothing⟩

def isWordChar (c : Char) : Bool :=
  !isBlank c && c != '"' && (Mark.ofChar? c).isNone

/-- One character more. A control character cannot stand in a quoted text. -/
def Scan.step (scan : Scan) (c : Char) : Option Scan :=
  match scan.pending with
  | .nothing =>
      if isWordChar c then some ⟨scan.found, .word [c]⟩ else some (outside scan.found [] c)
  | .word chars =>
      if isWordChar c then some ⟨scan.found, .word (c :: chars)⟩
      else some (outside scan.found chars c)
  | .quoted chars =>
      if c = '"' then some ⟨.quoted chars.reverse :: scan.found, .nothing⟩
      else if c = '\\' then some ⟨scan.found, .escape (c :: chars)⟩
      else if c.toNat < 32 then none
      else some ⟨scan.found, .quoted (c :: chars)⟩
  | .escape chars =>
      if c.toNat < 32 then none else some ⟨scan.found, .quoted (c :: chars)⟩

def Scan.finish (scan : Scan) : Option (List Lexeme) :=
  match scan.pending with
  | .nothing => some scan.found.reverse
  | .word chars => some (.word chars.reverse :: scan.found).reverse
  | .quoted _ | .escape _ => none

def ofChars (chars : List Char) : Option (List Lexeme) :=
  (chars.foldlM Scan.step ⟨[], .nothing⟩).bind Scan.finish

end Lexeme

end DocumentSearch.Json
