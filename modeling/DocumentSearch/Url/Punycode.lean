/-!
Punycode: the characters of a label outside ASCII, written as differences in ascending order
behind the ASCII ones. A difference is a number whose digits have bounds that adapt to the
differences before it, so that a digit below its bound ends the number.
-/

namespace DocumentSearch.Url.Punycode

def digitChar (digit : Nat) : Char :=
  if digit < 26 then Char.ofNat (97 + digit) else Char.ofNat (22 + digit)

def digitValue? (c : Char) : Option Nat :=
  if 'a' ≤ c && c ≤ 'z' then some (c.toNat - 97)
  else if 'A' ≤ c && c ≤ 'Z' then some (c.toNat - 65)
  else if '0' ≤ c && c ≤ '9' then some (c.toNat - 22)
  else none

/-- The bound of the digit at `position`, a multiple of 36 counted from 36. -/
def threshold (position bias : Nat) : Nat := max 1 (min 26 (position - bias))

def adaptFrom (delta position : Nat) : Nat :=
  if 455 < delta then adaptFrom (delta / 35) (position + 36)
  else position + 36 * delta / (delta + 38)
termination_by delta

/-- The bias after a difference, with `count` characters placed so far. -/
def adapt (delta count : Nat) (isFirst : Bool) : Nat :=
  let delta := if isFirst then delta / 700 else delta / 2
  adaptFrom (delta + delta / count) 0

/-- The digits of a number; `fuel` is at least the number itself. -/
def encodeNumber (bias : Nat) : Nat → Nat → Nat → List Char
  | 0, _, value => [digitChar value]
  | fuel + 1, position, value =>
      let t := threshold position bias
      if value < t then [digitChar value]
      else digitChar (t + (value - t) % (36 - t)) ::
        encodeNumber bias fuel (position + 36) ((value - t) / (36 - t))

structure Encoding where
  output : List Char
  delta : Nat
  bias : Nat
  placed : Nat

def isBasic (c : Char) : Bool := c.toNat < 0x80

/-- One character of the label while the characters equal to `next` are being placed. -/
def Encoding.step (basic next : Nat) (state : Encoding) (c : Char) : Encoding :=
  if c.toNat < next then { state with delta := state.delta + 1 }
  else if c.toNat = next then
    { output := state.output ++ encodeNumber state.bias state.delta 36 state.delta
      delta := 0
      bias := adapt state.delta (state.placed + 1) (state.placed = basic)
      placed := state.placed + 1 }
  else state

/-- Places the characters with the given code points, which ascend. -/
def encodeFrom (label : List Char) (basic : Nat) : Nat → List Nat → Encoding → Encoding
  | _, [], state => state
  | current, next :: rest, state =>
      let state := { state with delta := state.delta + (next - current) * (state.placed + 1) }
      let state := label.foldl (Encoding.step basic next) state
      encodeFrom label basic (next + 1) rest { state with delta := state.delta + 1 }

def encode (label : List Char) : List Char :=
  let basic := label.filter isBasic
  let others := ((label.filter (!isBasic ·)).map Char.toNat).mergeSort.eraseDups
  let state := encodeFrom label basic.length 128 others ⟨[], 0, 72, basic.length⟩
  basic ++ (if basic.isEmpty then [] else ['-']) ++ state.output

/-- Numbers and the weights of their digits stay below this bound. -/
def numberBound : Nat := UInt32.size

/-- Reads one number; gives it with the rest. -/
def decodeNumber (bias : Nat) : Nat → Nat → Nat → List Char → Option (Nat × List Char)
  | _, _, _, [] => none
  | position, weight, value, c :: rest => do
      let digit ← digitValue? c
      let value := value + digit * weight
      let t := threshold position bias
      if numberBound ≤ value then none
      else if digit < t then some (value, rest)
      else if numberBound ≤ weight * (36 - t) then none
      else decodeNumber bias (position + 36) (weight * (36 - t)) value rest

/-- Inserts one character for each number; `fuel` bounds how many there are. -/
def decodeFrom : Nat → List Char → Nat → Nat → Nat → List Char → Option (List Char)
  | _, [], _, _, _, label => some label
  | 0, _ :: _, _, _, _, _ => none
  | fuel + 1, input, code, index, bias, label => do
      let (delta, rest) ← decodeNumber bias 36 1 0 input
      let count := label.length + 1
      let code := code + (index + delta) / count
      let position := (index + delta) % count
      if code.isValidChar then
        decodeFrom fuel rest code (position + 1) (adapt delta count (index = 0))
          (label.take position ++ Char.ofNat code :: label.drop position)
      else none

/-- The characters before the last hyphen and those after it. -/
def splitLastHyphen (text : List Char) : List Char × List Char :=
  let after := (text.reverse.takeWhile (· != '-')).reverse
  (text.take (text.length - after.length - 1), after)

def decode (text : List Char) : Option (List Char) :=
  let (basic, digits) := splitLastHyphen text
  if basic.all isBasic then decodeFrom digits.length digits 128 0 72 basic else none

end DocumentSearch.Url.Punycode
