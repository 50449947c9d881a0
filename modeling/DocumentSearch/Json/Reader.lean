import DocumentSearch.Json.Lexeme
import DocumentSearch.Json.Numeral
import DocumentSearch.Json.Unquoted

/-!
Reading a document from its text. The pieces of the text are taken one at a time with the open
arrays and objects on a stack, so the reader needs no look-ahead. A repeated member keeps the
place of its first occurrence and the value of its last, and at most 127 arrays and objects may
be open at a time.
-/

namespace DocumentSearch.Json

def word? (chars : List Char) : Option Json :=
  match String.ofList chars with
  | "null" => some .null
  | "true" => some (.bool true)
  | "false" => some (.bool false)
  | _ => ((Numeral.read chars).bind Numeral.number?).map .number

/-- An array or object that is still open: an array with its items, the latest first, or an
object with its members and the name that waits for a value. -/
inductive Frame where
  | array (items : List Json)
  | object (entries : Entries Json) (name : String)

/-- What the next piece may be. An array or object that has just been opened may close at once. -/
inductive Expected where
  | value
  | itemOrClose
  | nameOrClose
  | name (entries : Entries Json)
  | colon (entries : Entries Json) (name : String)
  | afterValue (value : Json)

structure Reading where
  stack : List Frame
  expected : Expected

def maxDepth : Nat := 127

namespace Reading

def opening (stack : List Frame) (expected : Expected) : Option Reading :=
  if stack.length < maxDepth then some ⟨stack, expected⟩ else none

def value (stack : List Frame) : Lexeme → Option Reading
  | .quoted chars => (Unquoted.decode chars).map fun text => ⟨stack, .afterValue (.string text)⟩
  | .word chars => (word? chars).map fun value => ⟨stack, .afterValue value⟩
  | .punctuation .openArray => opening stack .itemOrClose
  | .punctuation .openObject => opening stack .nameOrClose
  | .punctuation _ => none

def name (stack : List Frame) (entries : Entries Json) : Lexeme → Option Reading
  | .quoted chars => (Unquoted.decode chars).map fun name => ⟨stack, .colon entries name⟩
  | _ => none

/-- What a mark means behind a value, given what is open around the value. -/
def after (value : Json) : List Frame → Mark → Option Reading
  | .array items :: stack, .comma => some ⟨.array (value :: items) :: stack, .value⟩
  | .array items :: stack, .closeArray =>
      some ⟨stack, .afterValue (.array (value :: items).reverse)⟩
  | .object entries name :: stack, .comma => some ⟨stack, .name (entries.put name value)⟩
  | .object entries name :: stack, .closeObject =>
      some ⟨stack, .afterValue (.object (entries.put name value))⟩
  | _, _ => none

def step (reading : Reading) (lexeme : Lexeme) : Option Reading :=
  let stack := reading.stack
  match reading.expected, lexeme with
  | .value, lexeme => value stack lexeme
  | .itemOrClose, .punctuation .closeArray => some ⟨stack, .afterValue (.array [])⟩
  | .itemOrClose, lexeme => value (.array [] :: stack) lexeme
  | .nameOrClose, .punctuation .closeObject => some ⟨stack, .afterValue (.object [])⟩
  | .nameOrClose, lexeme => name stack [] lexeme
  | .name entries, lexeme => name stack entries lexeme
  | .colon entries name, .punctuation .colon => some ⟨.object entries name :: stack, .value⟩
  | .afterValue value, .punctuation mark => after value stack mark
  | _, _ => none

def finish (reading : Reading) : Option Json :=
  match reading.expected, reading.stack with
  | .afterValue value, [] => some value
  | _, _ => none

end Reading

def ofLexemes (lexemes : List Lexeme) : Option Json :=
  (lexemes.foldlM Reading.step ⟨[], .value⟩).bind Reading.finish

/-- Reads a whole text as one document. -/
def read (text : String) : Option Json :=
  (Lexeme.ofChars text.toList).bind ofLexemes

end DocumentSearch.Json
