import DocumentSearch.Text.Split

/-!
Dates and times of a configuration: a date, a time of day, or both with or without an offset. They
are checked against the calendar and written in one normal form.
-/

namespace DocumentSearch.Toml

structure Date where
  year : Nat
  month : Nat
  day : Nat
deriving DecidableEq

structure Time where
  hour : Nat
  minute : Nat
  second : Nat
  nanosecond : Nat
deriving DecidableEq

/-- An offset in minutes. -/
inductive Offset where
  | utc
  | minutes (value : Int)
deriving DecidableEq

structure DateTime where
  date : Option Date
  time : Option Time
  offset : Option Offset
deriving DecidableEq

namespace DateTime

def digit? (c : Char) : Option Nat := if '0' ≤ c && c ≤ '9' then some (c.toNat - 48) else none

/-- A number of exactly as many digits as there are characters. -/
def number? (chars : List Char) : Option Nat :=
  chars.foldlM (fun value c => (digit? c).map (10 * value + ·)) 0

def within (high : Nat) (value : Nat) : Option Nat := if value ≤ high then some value else none

def isLeapYear (year : Nat) : Bool := year % 4 = 0 && (year % 100 != 0 || year % 400 = 0)

def daysIn (year month : Nat) : Nat :=
  if month = 2 then (if isLeapYear year then 29 else 28)
  else if [4, 6, 9, 11].contains month then 30 else 31

def date? (chars : List Char) : Option Date :=
  match chars with
  | [y1, y2, y3, y4, '-', m1, m2, '-', d1, d2] => do
      let year ← number? [y1, y2, y3, y4]
      let month ← number? [m1, m2]
      let day ← number? [d1, d2]
      if 1 ≤ month && month ≤ 12 && 1 ≤ day && day ≤ daysIn year month then
        some ⟨year, month, day⟩
      else none
  | _ => none

/-- A fraction of a second in nanoseconds; digits beyond the ninth are dropped. -/
def fraction? (chars : List Char) : Option Nat :=
  match chars with
  | [] => some 0
  | '.' :: digits =>
      if digits.isEmpty || !digits.all (digit? · |>.isSome) then none
      else
        let kept := digits.take 9
        (number? kept).map (· * Nat.pow 10 (9 - kept.length))
  | _ => none

def time? (chars : List Char) : Option Time :=
  match chars with
  | h1 :: h2 :: ':' :: m1 :: m2 :: ':' :: s1 :: s2 :: rest => do
      let hour ← (number? [h1, h2]).bind (within 23)
      let minute ← (number? [m1, m2]).bind (within 59)
      let second ← (number? [s1, s2]).bind (within 60)
      return ⟨hour, minute, second, ← fraction? rest⟩
  | _ => none

def offset? (chars : List Char) : Option Offset :=
  match chars with
  | ['Z'] | ['z'] => some .utc
  | [sign, h1, h2, ':', m1, m2] => do
      let hours ← (number? [h1, h2]).bind (within 23)
      let minutes ← (number? [m1, m2]).bind (within 59)
      let value : Int := 60 * hours + minutes
      match sign with
      | '+' => some (.minutes value)
      | '-' => some (.minutes (-value))
      | _ => none
  | _ => none

def isOffsetMark (c : Char) : Bool := c = 'Z' || c = 'z' || c = '+' || c = '-'

def timeWithOffset? (chars : List Char) : Option (Time × Option Offset) := do
  let time ← time? (chars.takeWhile (!isOffsetMark ·))
  match chars.dropWhile (!isOffsetMark ·) with
  | [] => return (time, none)
  | rest => return (time, some (← offset? rest))

def ofChars? (chars : List Char) : Option DateTime :=
  match date? (chars.take 10) with
  | some date =>
      match chars.drop 10 with
      | [] => some ⟨some date, none, none⟩
      | mark :: rest =>
          if mark = 'T' || mark = 't' || mark = ' ' then
            (timeWithOffset? rest).map fun (time, offset) => ⟨some date, some time, offset⟩
          else none
  | none => (time? chars).map fun time => ⟨none, some time, none⟩

def padded (width n : Nat) : String :=
  let digits := toString n
  String.ofList (List.replicate (width - digits.length) '0') ++ digits

def Date.text (date : Date) : String :=
  padded 4 date.year ++ "-" ++ padded 2 date.month ++ "-" ++ padded 2 date.day

def fractionText (nanosecond : Nat) : String :=
  if nanosecond = 0 then ""
  else
    let digits := (padded 9 nanosecond).toList
    "." ++ String.ofList (digits.reverse.dropWhile (· = '0')).reverse

def Time.text (time : Time) : String :=
  padded 2 time.hour ++ ":" ++ padded 2 time.minute ++ ":" ++ padded 2 time.second ++
    fractionText time.nanosecond

def Offset.text : Offset → String
  | .utc => "Z"
  | .minutes value =>
      (if value < 0 then "-" else "+") ++ padded 2 (value.natAbs / 60) ++ ":" ++
        padded 2 (value.natAbs % 60)

def text (value : DateTime) : String :=
  let date := (value.date.map Date.text).getD ""
  let time := (value.time.map Time.text).getD ""
  let mark := if value.date.isSome && value.time.isSome then "T" else ""
  date ++ mark ++ time ++ ((value.offset.map Offset.text).getD "")

end DateTime

end DocumentSearch.Toml
