import SqlComposer.Text.Marks
import SqlComposer.Toml.Value

/-!
Numbers, truth values, dates and times of TOML as they are written. The first characters decide
what a scalar is meant to be. A number that starts as one may still turn out to have no value; that
matters only where the value is used.
-/
namespace SqlComposer.Toml

def isDigit (c : Char) : Bool := '0' ≤ c && c ≤ '9'

def isHexDigit (c : Char) : Bool := isDigit c || ('a' ≤ c && c ≤ 'f') || ('A' ≤ c && c ≤ 'F')

def digitValue (c : Char) : Nat :=
  if isDigit c then c.toNat - '0'.toNat
  else if 'a' ≤ c && c ≤ 'f' then c.toNat - 'a'.toNat + 10
  else c.toNat - 'A'.toNat + 10

def numberOf (base : Nat) (digits : List Char) : Nat :=
  digits.foldl (fun number digit => number * base + digitValue digit) 0

/-- A sign and the characters after it; without a sign the number is not negative. -/
def splitSign : List Char → Bool × List Char
  | '-' :: chars => (true, chars)
  | '+' :: chars => (false, chars)
  | chars => (false, chars)

/-- Whether the parts after the first underscore start with digits and, up to the next underscore,
end with digits. The end of the last part is free. -/
def laterPartsFit (isAllowed : Char → Bool) : List (List Char) → Bool
  | [] => true
  | [part] => part.head?.any isAllowed
  | part :: rest =>
    part.head?.any isAllowed && part.getLast?.any isAllowed && laterPartsFit isAllowed rest

/-- The characters of a number without its underscores, which may only stand between digits or
between a sign and a digit. -/
def withoutUnderscores? (isAllowed : Char → Bool) (chars : List Char) : Option (List Char) :=
  match Text.splitChars '_' chars with
  | first :: next :: rest =>
    if !first.isEmpty && (first.length == 1 || first.getLast?.any isAllowed) &&
        laterPartsFit isAllowed (next :: rest) then
      some (first ++ (next :: rest).flatten)
    else none
  | _ => some chars

def signedNumber? (chars : List Char) : Option Int :=
  let (negative, digits) := splitSign chars
  if digits.isEmpty || !digits.all isDigit then none
  else some (if negative then -(numberOf 10 digits : Int) else numberOf 10 digits)

def basedInteger? (base : Nat) (isAllowed : Char → Bool) (chars : List Char) : Option Value :=
  let parts := Text.splitChars '_' chars
  if chars.isEmpty then some (.integer none)
  else if parts.all fun part => !part.isEmpty && part.all isAllowed then
    some (.integer (some (numberOf base parts.flatten)))
  else none

/-- An integer in base ten. It counts as an integer because it starts like one; only when it is
used, it has to be one to its end. -/
def plainInteger? (chars : List Char) : Option Value :=
  (withoutUnderscores? isHexDigit chars).map fun digits => .integer (signedNumber? digits)

def afterDigits? (chars : List Char) : Option (List Char) :=
  let isDigitOrUnderscore (c : Char) : Bool := isDigit c || c == '_'
  if (chars.takeWhile isDigitOrUnderscore).any isDigit then
    some (chars.dropWhile isDigitOrUnderscore)
  else none

def hasLeadingZero (chars : List Char) : Bool :=
  let digits := chars.takeWhile fun c => isDigit c || c == '_'
  chars.head? == some '0' && 1 < digits.countP isDigit

def afterFraction? : List Char → Option (List Char)
  | '.' :: chars => afterDigits? chars
  | chars => some chars

def afterExponent? : List Char → Option (List Char)
  | 'e' :: chars | 'E' :: chars => afterDigits? (splitSign chars).2
  | chars => some chars

/-- Whether characters have the form of a floating-point number without its sign, with underscores
anywhere. -/
def hasFloatForm (chars : List Char) : Bool :=
  let rest? := ((afterDigits? chars).bind afterFraction?).bind afterExponent?
  !hasLeadingZero chars && rest? == some []

/-- A number that was not written as infinite has no value when it is. -/
def finite? : Decimal.Double → Option Decimal.Double
  | .infinite _ => none
  | number => some number

def floatOf (chars : List Char) : Option Decimal.Double :=
  let (negative, chars) := splitSign chars
  let isMark (c : Char) : Bool := c == 'e' || c == 'E'
  let before := chars.takeWhile fun c => !isMark c
  let exponent := (signedNumber? ((chars.dropWhile fun c => !isMark c).drop 1)).getD 0
  let (whole, fraction) := (Text.cutAt? ['.'] before).getD (before, [])
  finite? (.ofDecimal negative (numberOf 10 (whole ++ fraction)) (exponent - fraction.length))

def plainFloat? (chars unsigned : List Char) : Option Value :=
  if hasFloatForm unsigned then
    (withoutUnderscores? isDigit chars).map fun digits => .float (floatOf digits)
  else none

def fixedDigits? (width : Nat) (chars : List Char) : Option (Nat × List Char) :=
  let digits := chars.take width
  if digits.length = width ∧ digits.all isDigit then
    some (numberOf 10 digits, chars.drop width)
  else none

def expect? (isExpected : Char → Bool) : List Char → Option (List Char)
  | c :: chars => if isExpected c then some chars else none
  | [] => none

def isLeapYear (year : Nat) : Bool := year % 4 == 0 && (year % 100 != 0 || year % 400 == 0)

def daysIn (year month : Nat) : Nat :=
  if month = 2 then (if isLeapYear year then 29 else 28)
  else if month = 4 ∨ month = 6 ∨ month = 9 ∨ month = 11 then 30
  else 31

def date? (chars : List Char) : Option (Date × List Char) := do
  let (year, chars) ← fixedDigits? 4 chars
  let chars ← expect? (· == '-') chars
  let (month, chars) ← fixedDigits? 2 chars
  let chars ← expect? (· == '-') chars
  let (day, chars) ← fixedDigits? 2 chars
  if 1 ≤ month ∧ month ≤ 12 ∧ 1 ≤ day ∧ day ≤ daysIn year month then
    return (⟨year, month, day⟩, chars)
  else none

/-- The billionths of a second that the digits of a fraction say, cut off after nine digits. -/
def nanosecondsOf (digits : List Char) : Nat :=
  numberOf 10 ((digits ++ List.replicate 9 '0').take 9)

def time? (chars : List Char) : Option (LocalTime × List Char) := do
  let (hour, chars) ← fixedDigits? 2 chars
  let chars ← expect? (· == ':') chars
  let (minute, chars) ← fixedDigits? 2 chars
  if hour > 23 ∨ minute > 59 then none
  else
    match chars with
    | ':' :: chars => do
      let (second, chars) ← fixedDigits? 2 chars
      if second > 60 then none
      else
        match chars with
        | '.' :: chars =>
          let digits := chars.takeWhile isDigit
          if digits.isEmpty then none
          else
            some (⟨hour, minute, some second, some (nanosecondsOf digits)⟩,
              chars.dropWhile isDigit)
        | chars => some (⟨hour, minute, some second, none⟩, chars)
    | chars => some (⟨hour, minute, none, none⟩, chars)

def offset? : List Char → Option (Option Offset)
  | [] => some none
  | ['Z'] => some (some .universal)
  | ['z'] => some (some .universal)
  | sign :: chars => do
    let (hours, chars) ← fixedDigits? 2 chars
    let chars ← expect? (· == ':') chars
    let (minutes, chars) ← fixedDigits? 2 chars
    let total : Int := hours * 60 + minutes
    if !chars.isEmpty || hours > 23 || minutes > 59 then none
    else if sign = '+' then some (some (.minutes total))
    else if sign = '-' then some (some (.minutes (-total)))
    else none

def datetime? (chars : List Char) : Option Datetime :=
  match date? chars with
  | some (date, []) => some ⟨some date, none, none⟩
  | some (date, separator :: rest) =>
    if separator = 'T' ∨ separator = 't' ∨ separator = ' ' then do
      let (time, rest) ← time? rest
      let offset? ← offset? rest
      return ⟨some date, some time, offset?⟩
    else none
  | none =>
    match time? chars with
    | some (time, []) => some ⟨none, some time, none⟩
    | _ => none

/-- A number, a date or a time, given with its sign and without it. What follows the first digits
tells which of them it is. -/
def numeral? (chars unsigned : List Char) : Option Value :=
  let rest := unsigned.dropWhile isDigit
  if rest.isEmpty && 1 < unsigned.length && unsigned.head? == some '0' then none
  else
    match rest with
    | [] => plainInteger? chars
    | '-' :: _ | ':' :: _ => (datetime? chars).map .datetime
    | mark :: _ =>
      if rest.any fun c => c == '.' || c == 'e' || c == 'E' then plainFloat? chars unsigned
      else if mark = '_' ∧ unsigned.head? ≠ some '0' then plainInteger? chars
      else none

def number? (chars unsigned : List Char) : Option Value :=
  let isSigned := chars.length != unsigned.length
  match unsigned with
  | '0' :: 'x' :: digits => if isSigned then none else basedInteger? 16 isHexDigit digits
  | '0' :: 'o' :: digits =>
    if isSigned then none else basedInteger? 8 (fun c => '0' ≤ c && c ≤ '7') digits
  | '0' :: 'b' :: digits =>
    if isSigned then none else basedInteger? 2 (fun c => c == '0' || c == '1') digits
  | c :: _ => if isDigit c || c == '_' then numeral? chars unsigned else none
  | [] => none

def scalar? (chars : List Char) : Option Value :=
  let (negative, unsigned) := splitSign chars
  if chars = "true".toList then some (.boolean true)
  else if chars = "false".toList then some (.boolean false)
  else if unsigned = "inf".toList then some (.float (some (.infinite negative)))
  else if unsigned = "nan".toList then some (.float (some .notNumber))
  else number? chars unsigned

end SqlComposer.Toml
