/-!
Text from bytes. Ill-formed bytes are grouped into the longest parts that could begin a character;
`parts` gives nothing for each such part, `decode` refuses them, and `decodeLossy` puts the
replacement character in their place.
-/

namespace DocumentSearch.Text.Utf8

/-- A character that has begun: how many bytes it still needs, between which bounds the next one
has to lie, and the value of the bits so far. -/
structure Begun where
  needed : Nat
  low : Nat
  high : Nat
  value : Nat

/-- What the first byte of a character says. -/
inductive First where
  | char (c : Char)
  | begun (begun : Begun)
  | illFormed

def first (byte : Nat) : First :=
  if byte < 0x80 then .char (Char.ofNat byte)
  else if byte < 0xC2 then .illFormed
  else if byte < 0xE0 then .begun ⟨1, 0x80, 0xBF, byte - 0xC0⟩
  else if byte < 0xF0 then
    .begun ⟨2, if byte = 0xE0 then 0xA0 else 0x80, if byte = 0xED then 0x9F else 0xBF, byte - 0xE0⟩
  else if byte < 0xF5 then
    .begun ⟨3, if byte = 0xF0 then 0x90 else 0x80, if byte = 0xF4 then 0x8F else 0xBF, byte - 0xF0⟩
  else .illFormed

/-- What the first byte of a character makes, and the character it begins. -/
def stepFresh (byte : UInt8) : List (Option Char) × Option Begun :=
  match first byte.toNat with
  | .char c => ([some c], none)
  | .begun begun => ([], some begun)
  | .illFormed => ([none], none)

/-- What one more byte makes of the character that has begun, and what has begun behind it. -/
def step : Option Begun → UInt8 → List (Option Char) × Option Begun
  | none, byte => stepFresh byte
  | some begun, byte =>
      if begun.low ≤ byte.toNat && byte.toNat ≤ begun.high then
        let value := 64 * begun.value + byte.toNat % 64
        if begun.needed = 1 then ([some (Char.ofNat value)], none)
        else ([], some ⟨begun.needed - 1, 0x80, 0xBF, value⟩)
      else
        let (made, next) := stepFresh byte
        (none :: made, next)

def partsFrom : Option Begun → List UInt8 → List (Option Char)
  | begun, [] => if begun.isSome then [none] else []
  | begun, byte :: rest =>
      let (made, next) := step begun byte
      made ++ partsFrom next rest

def parts (bytes : List UInt8) : List (Option Char) := partsFrom none bytes

def decode (bytes : List UInt8) : Option String :=
  ((parts bytes).mapM id).map String.ofList

def decodeLossy (bytes : List UInt8) : String :=
  String.ofList ((parts bytes).map (·.getD '\uFFFD'))

def encode (text : String) : List UInt8 := text.toList.flatMap String.utf8EncodeChar

end DocumentSearch.Text.Utf8
