import Mailroom.Text.Hex
import Mailroom.Text.Utf8

/-!
# Percent escapes

A character outside the safe set of a URL component is written as its UTF-8
octets, each a percent sign and two upper-case hexadecimal digits. In form
encoding a space is a plus sign and only letters, digits and `-._~` are safe.
Taking the escapes off gives octets; a percent sign without two digits stays.
-/

namespace Mailroom.Text

/-- The upper-case digit of a number below sixteen. -/
def upperHexDigit (value : Nat) : Char :=
  if value < 10 then Char.ofNat (0x30 + value) else Char.ofNat (0x41 + value - 10)

/-- One octet as an escape. -/
def percentOctet (octet : UInt8) : List Char :=
  ['%', upperHexDigit (octet.toNat / 16), upperHexDigit (octet.toNat % 16)]

/-- One character, escaped unless it is safe. -/
def percentChar (safe : Char → Bool) (character : Char) : List Char :=
  if safe character then [character]
  else (String.utf8EncodeChar character).flatMap percentOctet

/-- Characters that no URL component escapes. -/
def isUnreserved (character : Char) : Bool :=
  character.isAlphanum || character = '-' || character = '.' || character = '_' || character = '~'

/-- The octets of a text without its escapes. -/
def percentDecoded : List Char → List UInt8
  | '%' :: high :: low :: rest =>
    match hexValue? high, hexValue? low with
    | some upper, some lower => UInt8.ofNat (upper * 16 + lower) :: percentDecoded rest
    | _, _ => utf8Octets ['%'] ++ percentDecoded (high :: low :: rest)
  | character :: rest => utf8Octets [character] ++ percentDecoded rest
  | [] => []

/-- One character in form encoding. -/
def formChar (character : Char) : List Char :=
  if character = ' ' then ['+'] else percentChar isUnreserved character

/-- A text in form encoding. -/
def formEncoded (text : String) : String :=
  String.ofList (text.toList.flatMap formChar)

/-- Named values in form encoding, joined by ampersands. -/
def formFields (fields : List (String × String)) : String :=
  "&".intercalate (fields.map fun field => formEncoded field.1 ++ "=" ++ formEncoded field.2)

end Mailroom.Text
