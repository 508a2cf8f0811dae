import SqlComposer.Decimal.Double
import SqlComposer.Value.Temporal

/-!
What a TOML document says: tables of keys and values. The entries of a table are sorted by key.
-/
namespace SqlComposer.Toml

/-- A time of day. The seconds may be left out, and a fraction comes only after seconds. -/
structure LocalTime where
  hour : Nat
  minute : Nat
  second? : Option Nat
  nanosecond? : Option Nat
  deriving DecidableEq

inductive Offset where
  | universal
  | minutes (count : Int)
  deriving DecidableEq

structure Datetime where
  date? : Option Date
  time? : Option LocalTime
  offset? : Option Offset
  deriving DecidableEq

/-- A value. A number that cannot be told from what is written, or is too large for its kind, is
there without a value. -/
inductive Value where
  | text (value : String)
  | integer (value? : Option Int)
  | float (value? : Option Decimal.Double)
  | boolean (value : Bool)
  | datetime (value : Datetime)
  | array (items : List Value)
  | table (entries : List (String × Value))

/-- The digits of a fraction of a second without the zeros at the end, at least one. -/
def fractionText (nanosecond : Nat) : String :=
  let digits := ((lastDigits 9 nanosecond).reverse.dropWhile (· == '0')).reverse
  if digits.isEmpty then "0" else String.ofList digits

def LocalTime.normal (time : LocalTime) : String :=
  zeroPadded 2 time.hour ++ ":" ++ zeroPadded 2 time.minute ++
    (match time.second? with
      | some second => ":" ++ zeroPadded 2 second
      | none => "") ++
    (match time.nanosecond? with
      | some nanosecond => "." ++ fractionText nanosecond
      | none => "")

def Offset.normal : Offset → String
  | universal => "Z"
  | minutes count =>
    (if count < 0 then "-" else "+") ++ zeroPadded 2 (count.natAbs / 60) ++ ":" ++
      zeroPadded 2 (count.natAbs % 60)

def Datetime.normal (datetime : Datetime) : String :=
  (match datetime.date? with
    | some date => date.text
    | none => "") ++
    (if datetime.date?.isSome && datetime.time?.isSome then "T" else "") ++
    (match datetime.time? with
      | some time => time.normal
      | none => "") ++
    (match datetime.offset? with
      | some offset => offset.normal
      | none => "")

end SqlComposer.Toml
