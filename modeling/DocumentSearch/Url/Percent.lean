import DocumentSearch.Text.Hex
import DocumentSearch.Text.Utf8

/-!
Percent-encoding. Each part of a URL has its own set of ASCII characters that are encoded;
controls and everything outside ASCII are always encoded, byte by byte.
-/

namespace DocumentSearch.Url.Percent

def encodeByte (byte : UInt8) : List Char :=
  ['%', Text.hexDigitUpper (byte.toNat / 16), Text.hexDigitUpper (byte.toNat % 16)]

def isControl (c : Char) : Bool := c.toNat < 0x20 || c.toNat = 0x7F

def encodeChar (set : List Char) (c : Char) : List Char :=
  if isControl c || 0x7F < c.toNat || set.contains c then
    (String.utf8EncodeChar c).flatMap encodeByte
  else [c]

def encode (set : List Char) (chars : List Char) : List Char := chars.flatMap (encodeChar set)

def controls : List Char := []

def fragment : List Char := controls ++ [' ', '"', '<', '>', '`']

def query : List Char := controls ++ [' ', '"', '#', '<', '>']

def specialQuery : List Char := query ++ ['\'']

def path : List Char := fragment ++ ['#', '?', '\x7b', '\x7d']

def userInfo : List Char := path ++ ['/', ':', ';', '=', '@', '[', '\\', ']', '^', '|']

def segment : List Char := path ++ ['/', '%']

def specialSegment : List Char := segment ++ ['\\']

/-- The bytes that a text stands for. A percent sign without two digits stands for itself. -/
def decode : List Char → List UInt8
  | [] => []
  | '%' :: a :: b :: rest =>
      match Text.hexValue? a, Text.hexValue? b with
      | some high, some low => UInt8.ofNat (16 * high + low) :: decode rest
      | _, _ => 0x25 :: decode (a :: b :: rest)
  | c :: rest => String.utf8EncodeChar c ++ decode rest

end DocumentSearch.Url.Percent
