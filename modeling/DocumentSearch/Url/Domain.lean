import DocumentSearch.Text.Composed
import DocumentSearch.Text.Split
import DocumentSearch.Text.Utf8
import DocumentSearch.Url.Label
import DocumentSearch.Url.Percent
import DocumentSearch.Url.Punycode

/-!
Domain names in ASCII. Each character is mapped, which among other things lowers its case, and a
label that is left with characters outside ASCII is written in Punycode behind `xn--`. A label
that arrives in Punycode has to be the form of such a label.
-/

namespace DocumentSearch.Url.Domain

def isForbidden (c : Char) : Bool :=
  Percent.isControl c ||
    [' ', '%', '#', '/', ':', '<', '>', '?', '@', '[', '\\', ']', '^', '|'].contains c

def isAscii (c : Char) : Bool := c.toNat < 0x80

/-- What a character of a domain name becomes; nothing for one that cannot stand in a name. -/
def mapChar (c : Char) : Option (List Char) :=
  if isAscii c then some [c.toLower] else mapped? c

/-- Maps the characters and composes what they become. -/
def mapChars (chars : List Char) : Option (List Char) :=
  (chars.mapM mapChar).map fun mapped =>
    let text := mapped.flatten
    if text.all isAscii then text else Text.compose text

def punycodeMark : List Char := ['x', 'n', '-', '-']

/-- The most digits that a label has behind the mark. -/
def maxDigits : Nat := 2000

/-- The most characters of a label that is to be encoded. -/
def maxCharacters : Nat := 1000

/-- A label in its two forms: what it says, and how it is written in ASCII. -/
structure Label where
  characters : List Char
  ascii : List Char

/-- Reads the digits behind the mark. They stand for characters that are not all ASCII and map to
themselves. -/
def decodeLabel (digits : List Char) : Option (List Char) :=
  if maxDigits < digits.length || digits.getLast? = some '-' then none
  else (Punycode.decode digits).filter fun chars =>
    !chars.all isAscii && mapChars chars = some chars

def readLabel (label : List Char) : Option Label :=
  if punycodeMark.isPrefixOf label then
    (decodeLabel (label.drop punycodeMark.length)).map (⟨·, label⟩)
  else if label.all isAscii then some ⟨label, label⟩
  else if maxCharacters < label.length then none
  else some ⟨label, punycodeMark ++ Punycode.encode label⟩

/-- Reads the bytes of a domain name and writes the name in ASCII. -/
def toAscii (bytes : List UInt8) : Option String := do
  let text ← Text.Utf8.decode bytes
  let chars ← mapChars text.toList
  let labels ← (Text.splitChars '.' chars).mapM readLabel
  let ascii := List.intercalate ['.'] (labels.map (·.ascii))
  let characters := labels.map (·.characters)
  if ascii.any isForbidden then none
  else if characters.all isWellFormed && haveOneDirection characters then
    some (String.ofList ascii)
  else none

end DocumentSearch.Url.Domain
