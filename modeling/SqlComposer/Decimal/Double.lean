/-!
Floating-point numbers of 64 bits in exact integer arithmetic: the one nearest to a decimal
fraction, and the shortest decimal digits that are nearest to one.
-/
namespace SqlComposer.Decimal

/-- A floating-point number. A finite one is `mantissa * 2 ^ exponent` with a mantissa below `2 ^
53` and an exponent of at least `-1074`. -/
inductive Double where
  | notNumber
  | infinite (negative : Bool)
  | finite (negative : Bool) (mantissa : Nat) (exponent : Int)
  deriving DecidableEq

/-- A base to the power of an integer, as a numerator and a denominator. -/
def power (base : Nat) (exponent : Int) : Nat × Nat :=
  (base.pow exponent.toNat, base.pow (-exponent).toNat)

/-- A quotient rounded to the nearest integer, a tie to the even one. -/
def roundQuotient (numerator denominator : Nat) : Nat :=
  let quotient := numerator / denominator
  let twice := 2 * (numerator % denominator)
  if twice > denominator || (twice == denominator && quotient % 2 == 1) then quotient + 1
  else quotient

namespace Double

def ofFraction (negative : Bool) (numerator denominator : Nat) : Double :=
  let estimate : Int := (numerator.log2 : Int) - denominator.log2
  let low := max (estimate - 53) (-1074)
  let quotientAt (exponent : Int) : Nat × Nat :=
    let (up, down) := power 2 exponent
    (numerator * down, denominator * up)
  let (scaledNumerator, scaledDenominator) := quotientAt low
  let exponent := if scaledNumerator / scaledDenominator < Nat.pow 2 53 then low else low + 1
  let (scaledNumerator, scaledDenominator) := quotientAt exponent
  let rounded := roundQuotient scaledNumerator scaledDenominator
  let (mantissa, exponent) :=
    if rounded = Nat.pow 2 53 then (Nat.pow 2 52, exponent + 1) else (rounded, exponent)
  if exponent > 971 then .infinite negative else .finite negative mantissa exponent

/-- The number nearest to `digits * 10 ^ scale`. The bounds keep the powers small: beyond them every
number is infinite or zero. -/
def ofDecimal (negative : Bool) (digits : Nat) (scale : Int) : Double :=
  if digits = 0 then .finite negative 0 0
  else
    let magnitude : Int := (toString digits).length + scale
    if magnitude > 400 then .infinite negative
    else if magnitude < -400 then .finite negative 0 0
    else
      let (up, down) := power 10 scale
      ofFraction negative (digits * up) down

/-- How many digits a positive fraction has before its point; zero or less tells how many zeros
follow the point. -/
def integerDigits (numerator denominator : Nat) : Int :=
  let estimate : Int := (toString numerator).length - (toString denominator).length
  let (up, down) := power 10 estimate
  if numerator * down < denominator * up then estimate else estimate + 1

/-- The shortest digits and the power of ten that they are to be multiplied by. Of the decimals of
one length that round to the number, the nearest is taken, and of two equally near ones the one
farther from zero. -/
def shortest (mantissa : Nat) (exponent : Int) : Nat × Int :=
  let (up, down) := power 2 exponent
  let position := integerDigits (mantissa * up) down
  let isBinade := mantissa == Nat.pow 2 52 && exponent > -1074
  let (quarterUp, quarterDown) := power 2 (exponent - 2)
  let below := 4 * mantissa - (if isBinade then 1 else 2)
  let above := 4 * mantissa + 2
  let at? (length : Nat) : Option (Nat × Int) :=
    let scale := position - length
    let (tenUp, tenDown) := power 10 scale
    let unit := tenUp * quarterDown
    let part := quarterUp * tenDown
    let within (digits : Nat) : Bool :=
      if mantissa % 2 == 0 then below * part ≤ digits * unit && digits * unit ≤ above * part
      else below * part < digits * unit && digits * unit < above * part
    let whole := 4 * mantissa * part
    let floor := whole / unit
    let remainder := whole % unit
    let normal (digits : Nat) : Nat × Int :=
      if digits = Nat.pow 10 length then (1, scale + length) else (digits, scale)
    match within floor, within (floor + 1) with
    | true, true => some (normal (if 2 * remainder < unit then floor else floor + 1))
    | true, false => some (normal floor)
    | false, true => some (normal (floor + 1))
    | false, false => none
  ((List.range 17).findSome? fun length => at? (length + 1)).getD (mantissa, exponent)

def positional (digits : Nat) (scale : Int) : String :=
  let shown := toString digits
  let zeros (count : Int) : String := String.ofList (List.replicate count.toNat '0')
  if 0 ≤ scale then shown ++ zeros scale
  else
    let before := shown.length + scale
    if 0 < before then
      String.ofList (shown.toList.take before.toNat) ++ "." ++
        String.ofList (shown.toList.drop before.toNat)
    else "0." ++ zeros (-before) ++ shown

/-- The text of a number: its shortest digits, never with an exponent, and a sign also before zero.
-/
def text : Double → String
  | notNumber => "NaN"
  | infinite negative => if negative then "-inf" else "inf"
  | finite negative mantissa exponent =>
    let sign := if negative then "-" else ""
    if mantissa = 0 then sign ++ "0"
    else
      let (digits, scale) := shortest mantissa exponent
      sign ++ positional digits scale

end Double
end SqlComposer.Decimal
