import DocumentSearch.Text.Hex

/-!
What a quoted text of a document stands for. An escape names a character, or a unit of four
hexadecimal digits; a high surrogate has to be followed by a low one, and the two together name
one character.
-/

namespace DocumentSearch.Json.Unquoted

inductive Piece where
  | char (c : Char)
  | unit (value : Nat)
deriving DecidableEq

def namedEscape? : Char → Option Char
  | '"' => some '"'
  | '\\' => some '\\'
  | '/' => some '/'
  | 'b' => some '\x08'
  | 'f' => some '\x0c'
  | 'n' => some '\n'
  | 'r' => some '\r'
  | 't' => some '\t'
  | _ => none

def pieces : List Char → Option (List Piece)
  | [] => some []
  | '\\' :: 'u' :: a :: b :: c :: d :: rest => do
      let value ← Text.hexNumber? [a, b, c, d]
      return .unit value :: (← pieces rest)
  | '\\' :: c :: rest => do
      let c ← namedEscape? c
      return .char c :: (← pieces rest)
  | ['\\'] => none
  | c :: rest => (pieces rest).map (.char c :: ·)

def isHigh (unit : Nat) : Bool := 0xD800 ≤ unit && unit < 0xDC00

def isLow (unit : Nat) : Bool := 0xDC00 ≤ unit && unit < 0xE000

def pairValue (high low : Nat) : Nat := 0x10000 + (high - 0xD800) * 0x400 + (low - 0xDC00)

def joined : List Piece → Option (List Char)
  | [] => some []
  | .char c :: rest => (joined rest).map (c :: ·)
  | .unit high :: .unit low :: rest =>
      if isHigh high then
        if isLow low then (joined rest).map (Char.ofNat (pairValue high low) :: ·) else none
      else if isLow high then none
      else (joined (.unit low :: rest)).map (Char.ofNat high :: ·)
  | .unit value :: rest =>
      if isHigh value || isLow value then none
      else (joined rest).map (Char.ofNat value :: ·)

def decode (chars : List Char) : Option String :=
  ((pieces chars).bind joined).map String.ofList

end DocumentSearch.Json.Unquoted
