import DocumentSearch.Text.Hex

/-!
Quoted texts of a configuration. Basic texts have escapes and literal texts have none; both can
run over several lines when three quotes enclose them. A line break right behind the opening
quotes is dropped, line breaks are single characters whatever they were, and in a basic text a
backslash at the end of a line drops all blanks and line breaks that follow.
-/

namespace DocumentSearch.Toml.Quoted

/-- Characters that may stand in texts and comments: no controls except the tab. -/
def isPlain (c : Char) : Bool := c = '\t' || (32 ≤ c.toNat && c.toNat != 127)

def named? : Char → Option Char
  | 'b' => some '\x08'
  | 't' => some '\t'
  | 'n' => some '\n'
  | 'f' => some '\x0c'
  | 'r' => some '\r'
  | '"' => some '"'
  | '\\' => some '\\'
  | _ => none

def codePoint? (digits : List Char) : Option Char := do
  let code ← Text.hexNumber? digits
  if code.isValidChar then some (Char.ofNat code) else none

/-- The character of an escape behind its backslash, and what follows. -/
def escape? : List Char → Option (Char × List Char)
  | 'u' :: a :: b :: c :: d :: rest => (codePoint? [a, b, c, d]).map (·, rest)
  | 'U' :: a :: b :: c :: d :: e :: f :: g :: h :: rest =>
      (codePoint? [a, b, c, d, e, f, g, h]).map (·, rest)
  | c :: rest => (named? c).map (·, rest)
  | [] => none

def isSpace (c : Char) : Bool := c = ' ' || c = '\t'

/-- What follows the line break at the front. -/
def lineBreak? : List Char → Option (List Char)
  | '\n' :: rest => some rest
  | '\r' :: '\n' :: rest => some rest
  | _ => none

/-- What follows the blanks and line breaks at the front. -/
def dropBlankLines : List Char → List Char
  | '\n' :: rest => dropBlankLines rest
  | '\r' :: '\n' :: rest => dropBlankLines rest
  | ' ' :: rest => dropBlankLines rest
  | '\t' :: rest => dropBlankLines rest
  | chars => chars

/-- What follows the end of a line and all blank lines behind it. -/
def continuation? (chars : List Char) : Option (List Char) :=
  (lineBreak? (chars.dropWhile isSpace)).map dropBlankLines

abbrev Body := Option (List Char × List Char)

def Body.cons (c : Char) (body : Body) : Body := body.map fun (text, rest) => (c :: text, rest)

def basicFrom : Nat → List Char → Body
  | 0, _ => none
  | _, [] => none
  | _, '"' :: rest => some ([], rest)
  | fuel + 1, '\\' :: rest => do
      let (c, rest) ← escape? rest
      Body.cons c (basicFrom fuel rest)
  | fuel + 1, c :: rest => if isPlain c then Body.cons c (basicFrom fuel rest) else none

def literal : List Char → Body
  | [] => none
  | '\'' :: rest => some ([], rest)
  | c :: rest => if isPlain c then Body.cons c (literal rest) else none

/-- The end of a text in three quotes: up to two more quotes belong to the text. -/
def closing? (quote : Char) (chars : List Char) : Option Body :=
  let quotes := (chars.takeWhile (· = quote)).length
  if quotes < 3 then none
  else if 5 < quotes then some none
  else some (some (List.replicate (quotes - 3) quote, chars.drop quotes))

def multilineBasicFrom : Nat → List Char → Body
  | 0, _ => none
  | _, [] => none
  | fuel + 1, c :: rest =>
      match closing? '"' (c :: rest) with
      | some body => body
      | none =>
          if c = '\\' then
            match continuation? rest with
            | some rest => multilineBasicFrom fuel rest
            | none => do
                let (c, rest) ← escape? rest
                Body.cons c (multilineBasicFrom fuel rest)
          else match lineBreak? (c :: rest) with
            | some rest => Body.cons '\n' (multilineBasicFrom fuel rest)
            | none => if isPlain c then Body.cons c (multilineBasicFrom fuel rest) else none

def multilineLiteralFrom : Nat → List Char → Body
  | 0, _ => none
  | _, [] => none
  | fuel + 1, c :: rest =>
      match closing? '\'' (c :: rest) with
      | some body => body
      | none =>
          match lineBreak? (c :: rest) with
          | some rest => Body.cons '\n' (multilineLiteralFrom fuel rest)
          | none => if isPlain c then Body.cons c (multilineLiteralFrom fuel rest) else none

def dropFirstLineBreak (chars : List Char) : List Char := (lineBreak? chars).getD chars

/-- A text on one line, as keys are. -/
def line? (chars : List Char) : Body :=
  match chars with
  | '"' :: rest => basicFrom (rest.length + 1) rest
  | '\'' :: rest => literal rest
  | _ => none

def read (chars : List Char) : Body :=
  match chars with
  | '"' :: '"' :: '"' :: rest =>
      let rest := dropFirstLineBreak rest
      multilineBasicFrom (rest.length + 1) rest
  | '\'' :: '\'' :: '\'' :: rest =>
      let rest := dropFirstLineBreak rest
      multilineLiteralFrom (rest.length + 1) rest
  | other => line? other

end DocumentSearch.Toml.Quoted
