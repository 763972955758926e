/-!
# Base64

Three octets are written as four characters of six bits each; equals signs fill
up the last four.
-/

namespace Mailroom.Text

/-- The character of a number below 64. -/
def base64Char (value : Nat) : Char :=
  if value < 26 then Char.ofNat (0x41 + value)
  else if value < 52 then Char.ofNat (0x61 + value - 26)
  else if value < 62 then Char.ofNat (0x30 + value - 52)
  else if value = 62 then '+' else '/'

/-- The four characters of three octets. -/
def base64Group (first second third : Nat) : List Char :=
  [base64Char (first / 4), base64Char (first % 4 * 16 + second / 16),
    base64Char (second % 16 * 4 + third / 64), base64Char (third % 64)]

/-- Octets in Base64. -/
def base64 : List UInt8 → List Char
  | [] => []
  | [first] => (base64Group first.toNat 0 0).take 2 ++ ['=', '=']
  | [first, second] => (base64Group first.toNat second.toNat 0).take 3 ++ ['=']
  | first :: second :: third :: rest =>
    base64Group first.toNat second.toNat third.toNat ++ base64 rest

end Mailroom.Text
