import KeySynth.Text.Number

/-!
Dates and times.
-/

namespace KeySynth.Toml

open Text

/-- A number of so many digits, in a range. -/
def field? (lo hi : Nat) (digits : List Char) : Bool :=
  digits.all Char.isDigit && (digits? 10 digits).any fun n => lo ≤ n && n ≤ hi

def isLeap (year : Nat) : Bool := year % 4 == 0 && (year % 100 != 0 || year % 400 == 0)

def daysIn (year month : Nat) : Nat :=
  if month = 2 then if isLeap year then 29 else 28
  else if month = 4 ∨ month = 6 ∨ month = 9 ∨ month = 11 then 30
  else 31

/-- A day of the calendar. -/
def isDate : List Char → Bool
  | [a, b, c, d, '-', e, f, '-', g, h] =>
    let year := (digits? 10 [a, b, c, d]).getD 0
    let month := (digits? 10 [e, f]).getD 0
    field? 0 9999 [a, b, c, d] && field? 1 12 [e, f] && field? 1 (daysIn year month) [g, h]
  | _ => false

/-- What may follow the minutes: seconds, a leap second among them, perhaps with a fraction. -/
def isSeconds : List Char → Bool
  | [] => true
  | [':', e, f] => field? 0 60 [e, f]
  | ':' :: e :: f :: '.' :: ds => field? 0 60 [e, f] && !ds.isEmpty && ds.all Char.isDigit
  | _ => false

/-- A time of the day. -/
def isTime : List Char → Bool
  | a :: b :: ':' :: c :: d :: rest => field? 0 23 [a, b] && field? 0 59 [c, d] && isSeconds rest
  | _ => false

/-- The distance to universal time. -/
def isOffset : List Char → Bool
  | [z] => z == 'Z' || z == 'z'
  | [s, a, b, ':', c, d] => (s == '+' || s == '-') && field? 0 23 [a, b] && field? 0 59 [c, d]
  | _ => false

def startsOffset (c : Char) : Bool := c == 'Z' || c == 'z' || c == '+' || c == '-'

/-- A time, perhaps with an offset. -/
def isZonedTime (cs : List Char) : Bool :=
  isTime (cs.takeWhile (!startsOffset ·)) &&
    match cs.dropWhile (!startsOffset ·) with
    | [] => true
    | offset => isOffset offset

/-- A date, a time, or both with a mark between them. -/
def isMoment (cs : List Char) : Bool :=
  isTime cs || isDate cs ||
    (isDate (cs.take 10) &&
      match cs.drop 10 with
      | t :: time => (t == 'T' || t == 't' || t == ' ') && isZonedTime time
      | [] => false)

end KeySynth.Toml
