/-!
Sixty-four bit binary floating point numbers as their interchange words. A finite number is a
significand below 2^53 times a power of two; every operation computes the exact quotient of two
natural numbers and rounds it once, to the nearest number, a half to the even neighbour.
-/

namespace DocumentSearch

structure Binary64 where
  bits : UInt64
deriving DecidableEq

namespace Binary64

def fractionBits (x : Binary64) : Nat := x.bits.toNat % 0x10000000000000

def exponentBits (x : Binary64) : Nat := x.bits.toNat / 0x10000000000000 % 0x800

def isNegative (x : Binary64) : Bool := 0x8000000000000000 ≤ x.bits.toNat

def isFinite (x : Binary64) : Bool := x.exponentBits != 2047

def isNaN (x : Binary64) : Bool := x.exponentBits == 2047 && x.fractionBits != 0

def isZero (x : Binary64) : Bool := x.exponentBits == 0 && x.fractionBits == 0

/-- A finite number is `significand * 2 ^ exponent` up to its sign. -/
def significand (x : Binary64) : Nat :=
  if x.exponentBits = 0 then x.fractionBits else 0x10000000000000 + x.fractionBits

def exponent (x : Binary64) : Int := (max x.exponentBits 1 : Nat) - 1075

/-- Numeric equality: both zeros are equal, and no NaN equals anything. -/
def equals (x y : Binary64) : Bool :=
  !x.isNaN && !y.isNaN && (x.bits == y.bits || (x.isZero && y.isZero))

/-- The word with the given sign and the given remaining 63 bits. -/
def ofMagnitude (negative : Bool) (magnitude : Nat) : Binary64 :=
  ⟨UInt64.ofNat (magnitude + if negative then 0x8000000000000000 else 0)⟩

def infinityMagnitude : Nat := 0x7FF0000000000000

def zero : Binary64 := ofMagnitude false 0

def infinity (negative : Bool) : Binary64 := ofMagnitude negative infinityMagnitude

def nan : Binary64 := ofMagnitude false (infinityMagnitude + 0x8000000000000)

/-- The quotient rounded to the nearest natural number, a half to the even neighbour. -/
def roundDiv (num den : Nat) : Nat :=
  let quotient := num / den
  let remainder := num % den
  if 2 * remainder < den then quotient
  else if den < 2 * remainder then quotient + 1
  else quotient + quotient % 2

/-- The pair of factors whose quotient is `base ^ power`. -/
def powerFactors (base : Nat) (power : Int) : Nat × Nat :=
  (Nat.pow base power.toNat, Nat.pow base (-power).toNat)

/-- The power of two that a unit in the last place of the positive quotient `num / den` has. -/
def unitExponent (num den : Nat) : Int :=
  let width : Int := (num.log2 : Int) - den.log2
  let (up, down) := powerFactors 2 width
  let width := if den * up ≤ num * down then width else width - 1
  max (width - 52) (-1074)

/-- The number nearest to `num / den`, infinite when that is beyond the largest finite one. -/
def ofRatio (negative : Bool) (num den : Nat) : Binary64 :=
  if num = 0 then ofMagnitude negative 0
  else
    let unit := unitExponent num den
    let (up, down) := powerFactors 2 unit
    let magnitude := (unit + 1074).toNat * 0x10000000000000 + roundDiv (num * down) (den * up)
    ofMagnitude negative (min magnitude infinityMagnitude)

def ofNat (n : Nat) : Binary64 := ofRatio false n 1

def ofInt (i : Int) : Binary64 := ofRatio (i < 0) i.natAbs 1

def neg (x : Binary64) : Binary64 :=
  ofMagnitude (!x.isNegative) (x.bits.toNat % 0x8000000000000000)

/-- The product of two finite numbers. -/
def mul (x y : Binary64) : Binary64 :=
  let (up, down) := powerFactors 2 (x.exponent + y.exponent)
  ofRatio (x.isNegative != y.isNegative) (x.significand * y.significand * up) down

/-- The quotient of two finite numbers, the second of them not zero. -/
def div (x y : Binary64) : Binary64 :=
  let (up, down) := powerFactors 2 (x.exponent - y.exponent)
  ofRatio (x.isNegative != y.isNegative) (x.significand * up) (y.significand * down)

/-- The number nearest to `digits * 10 ^ power`. Powers so far out that the answer is an infinity
or a zero are decided by the width of `digits` alone. -/
def ofDecimal (negative : Bool) (digits : Nat) (power : Int) : Binary64 :=
  if digits = 0 then ofMagnitude negative 0
  else if 400 < power then infinity negative
  else if (digits.log2 : Int) + 3 * power < -1100 then ofMagnitude negative 0
  else
    let (up, down) := powerFactors 10 power
    ofRatio negative (digits * up) down

end Binary64

end DocumentSearch
