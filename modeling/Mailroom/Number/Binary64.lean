/-!
# Binary floating point of 64 bits

A finite number is a sign, a mantissa below `2^53` and an exponent of two.
Decimal numbers are rounded to the nearest one, a tie going to the even
mantissa. The text of a number has the fewest digits that read back as it.
-/

namespace Mailroom

/-- A number of the 64-bit binary format. -/
inductive Binary64 where
  | finite (negative : Bool) (mantissa : Nat) (exponent : Int)
  | infinite (negative : Bool)
  | notANumber
  deriving DecidableEq, Repr, Inhabited

namespace Binary64

/-- A quotient of natural numbers rounded to the nearest one, ties to even. -/
def roundQuotient (numerator denominator : Nat) : Nat :=
  let whole := numerator / denominator
  let twice := 2 * (numerator % denominator)
  if denominator < twice || (twice == denominator && whole % 2 == 1) then whole + 1 else whole

/-- Powers of a base with the negative ones as a denominator. -/
def scaled (base : Nat) (value : Nat) (exponent : Int) : Nat × Nat :=
  match exponent with
  | .ofNat power => (value * base.pow power, 1)
  | .negSucc power => (value, base.pow (power + 1))

/-- The number nearest to a quotient. -/
def ofQuotient (negative : Bool) (numerator denominator : Nat) : Binary64 :=
  if numerator = 0 then .finite negative 0 (-1074)
  else
    let estimate : Int := (numerator.log2 : Int) - denominator.log2 - 53
    -- The mantissa of this exponent has 53 or 54 bits; one step up removes the excess.
    let mantissaAt (exponent : Int) : Nat × Nat :=
      let (factor, divisor) := scaled 2 1 (-exponent)
      (numerator * factor, denominator * divisor)
    let fits (exponent : Int) : Bool :=
      let (top, bottom) := mantissaAt exponent
      top / bottom < Nat.pow 2 53
    let exponent := max (-1074)
      (if fits estimate then estimate else if fits (estimate + 1) then estimate + 1
        else estimate + 2)
    let (top, bottom) := mantissaAt exponent
    let mantissa := roundQuotient top bottom
    let (mantissa, exponent) :=
      if mantissa = Nat.pow 2 53 then (Nat.pow 2 52, exponent + 1) else (mantissa, exponent)
    if exponent > 971 then .infinite negative else .finite negative mantissa exponent

/-- The number nearest to `digits · 10^exponent`. Numbers beyond the format's
range are decided by their size alone. -/
def ofDecimal (negative : Bool) (digits : Nat) (exponent : Int) : Binary64 :=
  if digits = 0 then .finite negative 0 (-1074)
  else
    let size : Int := (digits.log2 : Int) * 30103 / 100000 + exponent
    if size > 400 then .infinite negative
    else if size < -800 then .finite negative 0 (-1074)
    else
      let (numerator, denominator) := scaled 10 digits exponent
      ofQuotient negative numerator denominator

/-- The number nearest to an integer. -/
def ofInt (value : Int) : Binary64 :=
  ofQuotient (value < 0) value.natAbs 1

/-- Whether the number is plus or minus zero. -/
def isZero : Binary64 → Bool
  | .finite _ mantissa _ => mantissa == 0
  | _ => false

/-- The integer part of a finite number. -/
def truncate? : Binary64 → Option Int
  | .finite negative mantissa exponent =>
    let (numerator, denominator) := scaled 2 mantissa exponent
    let size : Int := (numerator / denominator : Nat)
    some (if negative then -size else size)
  | _ => none

/-- The value as a quotient with a positive denominator. -/
def quotient? : Binary64 → Option (Int × Nat)
  | .finite negative mantissa exponent =>
    let (numerator, denominator) := scaled 2 mantissa exponent
    some (if negative then -(numerator : Int) else numerator, denominator)
  | _ => none

/-- The integer that a number is equal to, if there is one. -/
def whole? (value : Binary64) : Option Int := do
  let (numerator, denominator) ← value.quotient?
  if numerator % denominator = 0 then some (numerator / denominator) else none

/-- Whether two numbers are equal as numbers; the undefined one equals nothing. -/
def sameNumber : Binary64 → Binary64 → Bool
  | .infinite first, .infinite second => first == second
  | .finite firstSign firstMantissa firstExponent, .finite secondSign secondMantissa secondExponent =>
    match (Binary64.finite firstSign firstMantissa firstExponent).quotient?,
        (Binary64.finite secondSign secondMantissa secondExponent).quotient? with
    | some (numerator, denominator), some (numerator', denominator') =>
      numerator * denominator' == numerator' * denominator
    | _, _ => false
  | _, _ => false

/-- Digits and decimal exponent of a grid point `digits · 10^exponent`. -/
abbrev Decimal := Nat × Int

/-- Compare a grid point with the quotient `numerator / denominator`. -/
def compareWith (point : Decimal) (numerator denominator : Nat) : Ordering :=
  let (top, bottom) := scaled 10 point.1 point.2
  compare (top * denominator) (numerator * bottom)

/-- The bounds of the reals that round to `mantissa · 2^exponent`, as
numerators over one denominator, and whether the bounds belong to them. -/
def roundingBounds (mantissa : Nat) (exponent : Int) : Nat × Nat × Nat × Bool :=
  let (factor, divisor) := scaled 2 1 (exponent - 2)
  let below :=
    if mantissa = Nat.pow 2 52 && exponent > -1074 then 4 * mantissa - 1 else 4 * mantissa - 2
  (below * factor, (4 * mantissa + 2) * factor, divisor, mantissa % 2 == 0)

/-- Whether a grid point rounds to `mantissa · 2^exponent`. -/
def readsBack (mantissa : Nat) (exponent : Int) (point : Decimal) : Bool :=
  let (low, high, denominator, closed) := roundingBounds mantissa exponent
  let atLow := compareWith point low denominator
  let atHigh := compareWith point high denominator
  (atLow == .gt || (closed && atLow == .eq)) && (atHigh == .lt || (closed && atHigh == .eq))

/-- The number of decimal digits of the integer part of a quotient, or the
non-positive place of its first digit. -/
def decimalPlace (numerator denominator : Nat) : Int :=
  let rec up (fuel : Nat) (power : Nat) (place : Int) : Int :=
    match fuel with
    | 0 => place
    | fuel + 1 => if numerator < denominator * power then place else up fuel (power * 10) (place + 1)
  let rec down (fuel : Nat) (power : Nat) (place : Int) : Int :=
    match fuel with
    | 0 => place
    | fuel + 1 => if numerator * power ≥ denominator then place else down fuel (power * 10) (place - 1)
  if numerator ≥ denominator then up 400 1 0 else down 400 10 0

/-- The nearer of the two grid points around a quotient that read back. -/
def gridPoint? (mantissa : Nat) (exponent : Int) (place : Int) (count : Nat) : Option Decimal :=
  let (numerator, denominator) := scaled 2 mantissa exponent
  let unit := place - count
  let (factor, divisor) := scaled 10 1 (-unit)
  let below := numerator * factor / (denominator * divisor)
  let twice := 2 * (numerator * factor % (denominator * divisor))
  let lower : Decimal := (below, unit)
  let upper : Decimal := (below + 1, unit)
  match readsBack mantissa exponent lower, readsBack mantissa exponent upper with
  | true, true =>
    match compare twice (denominator * divisor) with
    | .lt => some lower
    | .gt => some upper
    | .eq => some (if below % 2 == 0 then lower else upper)
  | true, false => some lower
  | false, true => some upper
  | false, false => none

/-- The shortest digits that read back as `mantissa · 2^exponent`, and the
place of the first digit: `0.d₁d₂… · 10^place`. -/
def shortest (mantissa : Nat) (exponent : Int) : List Char × Int :=
  let (numerator, denominator) := scaled 2 mantissa exponent
  let place := decimalPlace numerator denominator
  match (List.range 17).findSome? fun count => gridPoint? mantissa exponent place (count + 1) with
  | some (digits, unit) =>
    let characters := Nat.toDigits 10 digits
    ((characters.reverse.dropWhile (· = '0')).reverse, unit + characters.length)
  | none => (['0'], 1)

/-- The sign of an exponent and at least two digits. -/
def exponentText (exponent : Int) : List Char :=
  let digits := Nat.toDigits 10 exponent.natAbs
  (if exponent < 0 then '-' else '+') :: (if digits.length < 2 then '0' :: digits else digits)

/-- Lay digits out: positional from `10^-4` up to `10^16`, otherwise with an exponent. -/
def layOut (digits : List Char) (place : Int) : List Char :=
  if -4 < place && place ≤ 16 then
    match place with
    | .ofNat 0 => '0' :: '.' :: digits
    | .negSucc zeros => '0' :: '.' :: (List.replicate (zeros + 1) '0' ++ digits)
    | .ofNat count =>
      if digits.length ≤ count then
        digits ++ List.replicate (count - digits.length) '0' ++ ['.', '0']
      else digits.take count ++ '.' :: digits.drop count
  else
    let head := digits.take 1
    let tail := digits.drop 1
    head ++ (if tail.isEmpty then [] else '.' :: tail) ++ 'e' :: exponentText (place - 1)

/-- The shortest text of a number. -/
def text : Binary64 → String
  | .finite negative mantissa exponent =>
    let magnitude :=
      if mantissa = 0 then ['0', '.', '0']
      else
        let (digits, place) := shortest mantissa exponent
        layOut digits place
    String.ofList (if negative then '-' :: magnitude else magnitude)
  | .infinite negative => if negative then "-inf" else "inf"
  | .notANumber => "nan"

end Binary64
end Mailroom
