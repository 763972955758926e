/-!
# Hexadecimal digits

Digits of base sixteen, fixed-width numbers written with them, and octets
written as pairs of digits.
-/

namespace Mailroom.Text

/-- The value of a hexadecimal digit in either case. -/
def hexValue? (character : Char) : Option Nat :=
  let point := character.toNat
  if 0x30 ≤ point && point ≤ 0x39 then some (point - 0x30)
  else if 0x61 ≤ point && point ≤ 0x66 then some (point - 0x61 + 10)
  else if 0x41 ≤ point && point ≤ 0x46 then some (point - 0x41 + 10)
  else none

/-- The lower-case digit of a number below sixteen. -/
def hexDigit (value : Nat) : Char :=
  if value < 10 then Char.ofNat (0x30 + value) else Char.ofNat (0x61 + value - 10)

/-- The lowest `width` hexadecimal digits of a number. -/
def hexDigits : Nat → Nat → List Char
  | 0, _ => []
  | width + 1, value => hexDigits width (value / 16) ++ [hexDigit (value % 16)]

/-- A digit below sixteen reads back as its value. -/
theorem hexValue?_hexDigit : ∀ value < 16, hexValue? (hexDigit value) = some value := by
  decide

/-- Octets written as pairs of hexadecimal digits; `none` for anything else. -/
def readHexOctets : List Char → Option (List UInt8)
  | [] => some []
  | [_] => none
  | high :: low :: rest => do
    let upper ← hexValue? high
    let lower ← hexValue? low
    let octets ← readHexOctets rest
    return UInt8.ofNat (upper * 16 + lower) :: octets

end Mailroom.Text
