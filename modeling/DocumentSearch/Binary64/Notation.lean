import DocumentSearch.Binary64.Shortest

/-!
The text of a finite number. From 1e-5 up to below 1e16 the shortest digits are written
positionally with at least one digit after the point, and elsewhere as one digit, a fraction if
there are more digits, and a signed exponent.
-/

namespace DocumentSearch.Binary64

def zeros (n : Nat) : String := String.ofList (List.replicate n '0')

/-- Writes `0.digits * 10 ^ point` with `point` counting digits before the decimal point. -/
def layout (digits : String) (point : Int) : String :=
  let size : Int := digits.length
  if 0 < point && point ≤ 16 then
    if size ≤ point then digits ++ zeros (point - size).toNat ++ ".0"
    else String.ofList (digits.toList.take point.toNat) ++ "." ++
      String.ofList (digits.toList.drop point.toNat)
  else if -5 < point && point ≤ 0 then
    "0." ++ zeros (-point).toNat ++ digits
  else
    let power := point - 1
    let mantissa := String.ofList (digits.toList.take 1)
    let fraction := String.ofList (digits.toList.drop 1)
    let sign := if power < 0 then "-" else "+"
    mantissa ++ (if fraction.isEmpty then "" else "." ++ fraction) ++ "e" ++ sign ++
      toString power.natAbs

/-- Writes a finite number so that reading the text gives the number back. -/
def text (x : Binary64) : String :=
  let sign := if x.isNegative then "-" else ""
  if x.isZero then sign ++ "0.0"
  else
    let decimal := x.shortest
    let digits := toString decimal.digits
    sign ++ layout digits (decimal.power + digits.length)

end DocumentSearch.Binary64
