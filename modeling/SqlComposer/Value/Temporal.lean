/-!
Days and moments of the civil calendar, and their digits in literals. Years from 0 to 9999 have four
digits; other years carry a sign and at least four digits.
-/
namespace SqlComposer

structure Date where
  year : Int
  month : Nat
  day : Nat
  deriving DecidableEq

/-- A moment of a day. A second of 59 with a billion nanoseconds or more is a leap second. -/
structure Timestamp where
  date : Date
  hour : Nat
  minute : Nat
  second : Nat
  nanosecond : Nat
  deriving DecidableEq

/-- The last `width` decimal digits of a number, with zeros in front where it has fewer. -/
def lastDigits : Nat → Nat → List Char
  | 0, _ => []
  | width + 1, number => lastDigits width (number / 10) ++ [Char.ofNat (48 + number % 10)]

def zeroPadded (width number : Nat) : String :=
  if number < Nat.pow 10 width then String.ofList (lastDigits width number) else toString number

theorem length_lastDigits (width number : Nat) : (lastDigits width number).length = width := by
  induction width generalizing number with
  | zero => rfl
  | succ width ih => simp [lastDigits, ih]

def yearText (year : Int) : String :=
  if 0 ≤ year ∧ year ≤ 9999 then zeroPadded 4 year.toNat
  else if year < 0 then "-" ++ zeroPadded 4 year.natAbs
  else "+" ++ zeroPadded 4 year.natAbs

namespace Date

def text (date : Date) : String :=
  yearText date.year ++ "-" ++ zeroPadded 2 date.month ++ "-" ++ zeroPadded 2 date.day

end Date

namespace Timestamp

def shownSecond (moment : Timestamp) : Nat :=
  moment.second + moment.nanosecond / 1000000000

/-- The milliseconds of the second, cut off rather than rounded. -/
def millisecond (moment : Timestamp) : Nat :=
  moment.nanosecond % 1000000000 / 1000000

def secondsText (moment : Timestamp) : String :=
  moment.date.text ++ " " ++ zeroPadded 2 moment.hour ++ ":" ++ zeroPadded 2 moment.minute ++ ":" ++
    zeroPadded 2 moment.shownSecond

def millisecondsText (moment : Timestamp) : String :=
  moment.secondsText ++ "." ++ zeroPadded 3 moment.millisecond

end Timestamp
end SqlComposer
