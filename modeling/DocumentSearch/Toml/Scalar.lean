import DocumentSearch.Json
import DocumentSearch.Text.Hex
import DocumentSearch.Toml.DateTime

/-!
The values of a configuration that are written as one word: booleans, numbers and date-times.
Digits may be grouped by single underscores. An integer has 64 bits with a sign; an infinity or a
NaN becomes null, and a date-time becomes an object with its text.
-/

namespace DocumentSearch.Toml.Scalar

/-- Digits without their underscores, each of which stands between two digits. -/
def ungrouped (isDigit : Char → Bool) : List Char → Option (List Char)
  | [] => none
  | [c] => if isDigit c then some [c] else none
  | c :: '_' :: rest => if isDigit c then (ungrouped isDigit rest).map (c :: ·) else none
  | c :: rest => if isDigit c then (ungrouped isDigit rest).map (c :: ·) else none

def digitIn (base : Nat) (c : Char) : Bool := (Text.hexValue? c).any (· < base)

def valueIn (base : Nat) (digits : List Char) : Nat :=
  digits.foldl (fun value c => base * value + (Text.hexValue? c).getD 0) 0

def inRange (i : Int) : Option Int :=
  if -0x8000000000000000 ≤ i && i < 0x8000000000000000 then some i else none

def radixInteger? (base : Nat) (chars : List Char) : Option Int := do
  let digits ← ungrouped (digitIn base) chars
  inRange (valueIn base digits)

/-- The sign, if there is one, and the rest. -/
def splitSign (chars : List Char) : Bool × List Char :=
  match chars with
  | '-' :: rest => (true, rest)
  | '+' :: rest => (false, rest)
  | other => (false, other)

/-- The digits of a whole part, which begins with a zero only if it is zero. -/
def wholeDigits? (chars : List Char) : Option (List Char) :=
  match chars with
  | '0' :: _ :: _ => none
  | other => ungrouped (digitIn 10) other

def integer? (chars : List Char) : Option Int :=
  match chars with
  | '0' :: 'x' :: digits => radixInteger? 16 digits
  | '0' :: 'o' :: digits => radixInteger? 8 digits
  | '0' :: 'b' :: digits => radixInteger? 2 digits
  | _ => do
      let (negative, chars) := splitSign chars
      let value : Int := valueIn 10 (← wholeDigits? chars)
      inRange (if negative then -value else value)

def exponent? (chars : List Char) : Option Int := do
  let (negative, chars) := splitSign chars
  let value : Int := valueIn 10 (← ungrouped (digitIn 10) chars)
  return if negative then -value else value

def special? (chars : List Char) : Option Binary64 :=
  let (negative, chars) := splitSign chars
  match String.ofList chars with
  | "inf" => some (Binary64.infinity negative)
  | "nan" => some Binary64.nan
  | _ => none

/-- A number with a fraction, an exponent or both. One too large has no positive value. -/
def decimal? (chars : List Char) : Option Binary64 := do
  let (negative, chars) := splitSign chars
  let isMark (c : Char) : Bool := c = 'e' || c = 'E'
  let mantissa := chars.takeWhile (!isMark ·)
  let exponent ← match chars.dropWhile (!isMark ·) with
    | [] => some none
    | _ :: rest => (exponent? rest).map some
  let (whole, fraction) ← match Text.splitOnceChars '.' mantissa with
    | none => (wholeDigits? mantissa).map (·, none)
    | some (whole, fraction) => do
        pure (← wholeDigits? whole, some (← ungrouped (digitIn 10) fraction))
  if fraction.isNone && exponent.isNone then none
  else
    let fraction := fraction.getD []
    let power : Int := exponent.getD 0 - fraction.length
    let x := Binary64.ofDecimal negative (valueIn 10 (whole ++ fraction)) power
    if x.isFinite || negative then some x else none

def dateTimeMember : String := "$__toml_private_datetime"

def read (chars : List Char) : Option Json :=
  match String.ofList chars with
  | "true" => some (.bool true)
  | "false" => some (.bool false)
  | _ =>
      match DateTime.ofChars? chars, integer? chars with
      | some value, _ => some (.single dateTimeMember (.string value.text))
      | none, some i => some (.number (.ofInt i))
      | none, none => ((special? chars).or (decimal? chars)).map .float

end DocumentSearch.Toml.Scalar
