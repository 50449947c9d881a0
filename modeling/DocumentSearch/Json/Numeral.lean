import DocumentSearch.Json

/-!
The numbers of a document's text. Digits are gathered into a 64-bit significand. Once the next
digit no longer fits, the remaining digits of the whole part only raise the power of ten, and the
remaining digits of the fraction are dropped. A text without fraction and exponent whose digits
all fit is an integer if it is in range; anything else is the significand, as a float, multiplied
or divided by a power of ten, with one rounding for each step.
-/

namespace DocumentSearch

/-- A number as written. -/
structure Numeral where
  negative : Bool
  whole : List Nat
  fraction : Option (List Nat)
  exponent : Option Int
deriving DecidableEq

namespace Numeral

def digit? (c : Char) : Option Nat :=
  if '0' ≤ c && c ≤ '9' then some (c.toNat - 48) else none

/-- The digits at the front and what follows them. -/
def spanDigits : List Char → List Nat × List Char
  | [] => ([], [])
  | c :: rest =>
      match digit? c with
      | some d => let (digits, after) := spanDigits rest; (d :: digits, after)
      | none => ([], c :: rest)

def digitsValue (digits : List Nat) : Nat := digits.foldl (fun value d => 10 * value + d) 0

/-- The part after `e`: a sign, if any, and one digit or more up to the end. -/
def readExponent (chars : List Char) : Option Int :=
  let (negative, chars) :=
    match chars with
    | '+' :: rest => (false, rest)
    | '-' :: rest => (true, rest)
    | other => (false, other)
  match spanDigits chars with
  | ([], _) => none
  | (digits, []) => some (if negative then -(digitsValue digits : Int) else digitsValue digits)
  | (_, _ :: _) => none

def readScale (negative : Bool) (whole : List Nat) (fraction : Option (List Nat)) :
    List Char → Option Numeral
  | [] => some ⟨negative, whole, fraction, none⟩
  | c :: rest =>
      if c = 'e' || c = 'E' then
        (readExponent rest).map fun exponent => ⟨negative, whole, fraction, some exponent⟩
      else none

/-- Reads a whole text. A zero is not followed by another digit of the whole part. -/
def read (chars : List Char) : Option Numeral :=
  let (negative, chars) :=
    match chars with
    | '-' :: rest => (true, rest)
    | other => (false, other)
  match spanDigits chars with
  | ([], _) => none
  | (0 :: _ :: _, _) => none
  | (whole, '.' :: rest) =>
      match spanDigits rest with
      | ([], _) => none
      | (fraction, rest) => readScale negative whole (some fraction) rest
  | (whole, rest) => readScale negative whole none rest

/-- Takes digits into the significand as long as it stays below 2^64; returns the digits left. -/
def gather : Nat → List Nat → Nat × List Nat
  | significand, [] => (significand, [])
  | significand, d :: rest =>
      if 10 * significand + d < UInt64.size then gather (10 * significand + d) rest
      else (significand, d :: rest)

def powerOfTen (power : Nat) : Binary64 := Binary64.ofNat (Nat.pow 10 power)

/-- Divides by powers of ten of at most 308, rounding each time. -/
def scaleDown (x : Binary64) (power : Nat) : Binary64 :=
  if power ≤ 308 then x.div (powerOfTen power)
  else if x.isZero then x
  else scaleDown (x.div (powerOfTen 308)) (power - 308)
termination_by power

/-- Multiplies by a power of ten; nothing when the product is out of range. -/
def scaleUp (x : Binary64) (power : Nat) : Option Binary64 :=
  if power ≤ 308 then
    let product := x.mul (powerOfTen power)
    if product.isFinite then some product else none
  else if x.isZero then some x
  else none

def scale (x : Binary64) (power : Int) : Option Binary64 :=
  match power with
  | .ofNat n => scaleUp x n
  | .negSucc n => some (scaleDown x (n + 1))

def float (negative : Bool) (significand : Nat) (power : Int) : Option Number :=
  (scale (Binary64.ofNat significand) power).map fun x =>
    .float (if negative then x.neg else x)

/-- An exponent beyond this bound makes a zero zero, a negative one makes everything zero, and
any other number is out of range. -/
def exponentBound : Int := 0x80000000

def floatWithExponent (negative : Bool) (significand : Nat) (power exponent : Int) :
    Option Number :=
  if exponent ≤ -exponentBound then float negative 0 0
  else if exponentBound ≤ exponent then
    if significand = 0 then float negative 0 0 else none
  else float negative significand (power + exponent)

def integer (negative : Bool) (significand : Nat) : Number :=
  if negative then
    if significand = 0 then .float (Binary64.ofNat 0).neg else Number.ofInt (-significand)
  else Number.ofNat significand

/-- The number that is written; nothing when it is out of range. -/
def number? (numeral : Numeral) : Option Number :=
  let (significand, dropped) := gather 0 numeral.whole
  match numeral.fraction, numeral.exponent, dropped with
  | none, none, [] => some (integer numeral.negative significand)
  | fraction, exponent, _ =>
      let fraction := fraction.getD []
      let (significand, left) := gather significand fraction
      let power : Int := dropped.length - (fraction.length - left.length : Nat)
      match exponent with
      | none => float numeral.negative significand power
      | some exponent => floatWithExponent numeral.negative significand power exponent

end Numeral

end DocumentSearch
