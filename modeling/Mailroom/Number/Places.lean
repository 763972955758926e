import Mailroom.Number.Binary64

/-!
# Numbers with a given count of places

A number is rounded to a count of digits after the point, or to a count of
digits in all, from its exact value; a tie goes to the even digit. The fixed
layout writes all digits before the point, the scaled one a single digit and an
exponent of ten. The general layout takes the shorter of the two.
-/

namespace Mailroom.Binary64

/-- How a number is laid out. -/
inductive Layout where
  | fixed
  | scaled
  | general
  deriving DecidableEq, Repr

/-- Decimal digits with zeros in front up to a count. -/
def paddedDigits (count value : Nat) : List Char :=
  let digits := Nat.toDigits 10 value
  List.replicate (count - digits.length) '0' ++ digits

/-- Digits with a point before the last `places` of them. Without places there
is a point only when it is kept. -/
def withPoint (keepPoint : Bool) (places : Nat) (digits : List Char) : List Char :=
  let whole := digits.take (digits.length - places)
  let fraction := digits.drop (digits.length - places)
  if fraction.isEmpty && !keepPoint then whole else whole ++ '.' :: fraction

/-- A quotient with `places` digits after the point. -/
def fixedText (keepPoint : Bool) (places numerator denominator : Nat) : List Char :=
  withPoint keepPoint places
    (paddedDigits (places + 1) (roundQuotient (numerator * Nat.pow 10 places) denominator))

/-- The first `count` digits of a quotient as a number, rounded, and the
exponent of ten of the first one. -/
def leadingDigits (count numerator denominator : Nat) : Nat × Int :=
  if numerator = 0 then (0, 0)
  else
    let place := decimalPlace numerator denominator
    let (factor, divisor) := scaled 10 1 (count - place)
    let digits := roundQuotient (numerator * factor) (denominator * divisor)
    if digits = Nat.pow 10 count then (Nat.pow 10 (count - 1), place) else (digits, place - 1)

/-- A quotient with one digit before the point, `places` after it and an
exponent of ten. -/
def scaledText (keepPoint : Bool) (places numerator denominator : Nat) : List Char :=
  let (digits, exponent) := leadingDigits (places + 1) numerator denominator
  withPoint keepPoint places (paddedDigits (places + 1) digits) ++ 'e' :: exponentText exponent

/-- Digits without the zeros that end a fraction, and without a point that ends them. -/
def withoutTrailingZeros (digits : List Char) : List Char :=
  if digits.contains '.' then
    let kept := digits.reverse.dropWhile (· = '0')
    (if kept.head? = some '.' then kept.drop 1 else kept).reverse
  else digits

/-- A quotient with `count` digits in all, in the layout that suits its size. -/
def generalText (keepZeros : Bool) (count numerator denominator : Nat) : List Char :=
  let count := max count 1
  let (_, exponent) := leadingDigits count numerator denominator
  if -4 ≤ exponent && exponent < count then
    let places := (count - 1 - exponent).toNat
    let text := fixedText keepZeros places numerator denominator
    if keepZeros then text else withoutTrailingZeros text
  else
    let (digits, exponent) := leadingDigits count numerator denominator
    let text := withPoint keepZeros (count - 1) (paddedDigits count digits)
    (if keepZeros then text else withoutTrailingZeros text) ++ 'e' :: exponentText exponent

/-- Whether a number is written with a minus sign, and the rest of its text. -/
def placed (layout : Layout) (keepPoint : Bool) (places : Nat) : Binary64 → Bool × List Char
  | .finite negative mantissa exponent =>
    let (numerator, denominator) := scaled 2 mantissa exponent
    (negative, match layout with
      | .fixed => fixedText keepPoint places numerator denominator
      | .scaled => scaledText keepPoint places numerator denominator
      | .general => generalText keepPoint places numerator denominator)
  | .infinite negative => (negative, ['i', 'n', 'f'])
  | .notANumber => (false, ['n', 'a', 'n'])

end Mailroom.Binary64
