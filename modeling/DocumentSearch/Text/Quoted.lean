import DocumentSearch.Text.Extending
import DocumentSearch.Text.Hex
import DocumentSearch.Text.Unprintable

/-!
Quoted text for messages. Quotes, backslashes and line controls are escaped by name; a character
that has no visible form of its own is written as its hexadecimal code point in braces.
-/

namespace DocumentSearch.Text

def escaped (c : Char) : String :=
  match c with
  | '\x00' => "\\0"
  | '\t' => "\\t"
  | '\r' => "\\r"
  | '\n' => "\\n"
  | '"' => "\\\""
  | '\\' => "\\\\"
  | _ =>
      if isExtending c || !isPrintable c then "\\u\x7b" ++ hexText c.toNat ++ "\x7d"
      else String.singleton c

def quoted (text : String) : String := "\"" ++ String.join (text.toList.map escaped) ++ "\""

end DocumentSearch.Text
