import DocumentSearch.Text.Hex
import DocumentSearch.Text.Split

/-!
Numeric hosts. An IPv4 address has up to four parts, the last of which fills all the bytes that
are left; a part may be decimal, octal or hexadecimal. An IPv6 address is eight pieces of sixteen
bits, where one run of zeros may be left out and an IPv4 address may stand for the last two.
-/

namespace DocumentSearch.Url

/-- The value of a part of an IPv4 address, if it is a number at all. -/
def ipv4Number (part : List Char) : Option Nat :=
  let ofDigits (base : Nat) (digits : List Char) : Option Nat :=
    digits.foldlM (fun value c => do
      let digit ← Text.hexValue? c
      if digit < base then some (base * value + digit) else none) 0
  match part with
  | [] => none
  | '0' :: 'x' :: digits | '0' :: 'X' :: digits => ofDigits 16 digits
  | '0' :: c :: digits => ofDigits 8 (c :: digits)
  | digits => ofDigits 10 digits

/-- The parts between dots, without an empty one at the end. -/
def dottedParts (host : List Char) : List (List Char) :=
  let parts := Text.splitChars '.' host
  if 1 < parts.length && parts.getLast? = some [] then parts.dropLast else parts

def isDecimal (part : List Char) : Bool := !part.isEmpty && part.all fun c => '0' ≤ c && c ≤ '9'

/-- A host whose last part is a number has to be an IPv4 address. -/
def endsInNumber (host : List Char) : Bool :=
  match (dottedParts host).getLast? with
  | none => false
  | some last => isDecimal last || (ipv4Number last).isSome

/-- Numbers before the last are single bytes, and the last one fills the remaining bytes. -/
def ipv4OfNumbers : Nat → List Nat → Option Nat
  | _, [] => none
  | bytes, [last] => if last < Nat.pow 256 bytes then some last else none
  | bytes, n :: rest =>
      if n < 256 then (ipv4OfNumbers (bytes - 1) rest).map (n * Nat.pow 256 (bytes - 1) + ·)
      else none

def ipv4 (host : List Char) : Option Nat := do
  let parts := dottedParts host
  if 4 < parts.length then none
  else ipv4OfNumbers 4 (← parts.mapM ipv4Number)

def ipv4Text (address : Nat) : String :=
  String.intercalate "." ([3, 2, 1, 0].map fun i => toString (address / Nat.pow 256 i % 256))

/-- A decimal byte without leading zeros. -/
def byteNumber (part : List Char) : Option Nat :=
  match part with
  | '0' :: _ :: _ => none
  | _ =>
      if isDecimal part && part.length ≤ 3 then
        let value := part.foldl (fun value c => 10 * value + (c.toNat - 48)) 0
        if value < 256 then some value else none
      else none

/-- The two pieces that a dotted address at the end of an IPv6 address stands for. -/
def embeddedIpv4 (text : List Char) : Option (List Nat) :=
  match (Text.splitChars '.' text).mapM byteNumber with
  | some [a, b, c, d] => some [256 * a + b, 256 * c + d]
  | _ => none

def ipv6Piece (text : List Char) : Option Nat :=
  if text.isEmpty || 4 < text.length then none else Text.hexNumber? text

/-- Pieces between single colons; only the last of them may be a dotted address. -/
def ipv6Pieces : List (List Char) → Option (List Nat)
  | [] => some []
  | [last] =>
      match ipv6Piece last with
      | some piece => some [piece]
      | none => embeddedIpv4 last
  | text :: rest => do
      let piece ← ipv6Piece text
      return piece :: (← ipv6Pieces rest)

/-- The texts before and after the first double colon. -/
def splitDoubleColon : List Char → Option (List Char × List Char)
  | [] => none
  | ':' :: ':' :: rest => some ([], rest)
  | c :: rest => (splitDoubleColon rest).map fun (before, after) => (c :: before, after)

def ipv6Side (text : List Char) : Option (List Nat) :=
  if text.isEmpty then some [] else ipv6Pieces (Text.splitChars ':' text)

def ipv6 (text : List Char) : Option (List Nat) := do
  match splitDoubleColon text with
  | none =>
      let pieces ← ipv6Side text
      if pieces.length = 8 then some pieces else none
  | some (before, after) =>
      if before.contains '.' then none
      else
        let front ← ipv6Side before
        let back ← ipv6Side after
        let size := front.length + back.length
        if size < 8 then some (front ++ List.replicate (8 - size) 0 ++ back) else none

def zeroRun (pieces : List Nat) : Nat := (pieces.takeWhile (· = 0)).length

/-- Where the first of the longest runs of zeros begins, and how long it is. -/
def longestZeroRunFrom (position : Nat) : List Nat → Nat × Nat
  | [] => (position, 0)
  | piece :: rest =>
      let here := zeroRun (piece :: rest)
      let later := longestZeroRunFrom (position + 1) rest
      if later.2 ≤ here then (position, here) else later

def ipv6PiecesText (pieces : List Nat) : String :=
  String.intercalate ":" (pieces.map Text.hexText)

/-- The longest run of two or more zeros is left out. -/
def ipv6Text (pieces : List Nat) : String :=
  let (start, length) := longestZeroRunFrom 0 pieces
  if length < 2 then ipv6PiecesText pieces
  else ipv6PiecesText (pieces.take start) ++ "::" ++ ipv6PiecesText (pieces.drop (start + length))

end DocumentSearch.Url
