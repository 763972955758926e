import Mailroom.Text.Surrogate
import Mailroom.Text.Utf8

/-!
# Telling the encoding of a JSON text

A JSON text comes in UTF-8, UTF-16 or UTF-32. A byte order mark names the
encoding; without one the places of the zero octets among the first four do, as
the first two characters of a JSON text are ASCII. Each encoding may write half
of a surrogate pair as if it were a character.
-/

namespace Mailroom.Text

/-- Order of the octets in a unit of several octets. -/
inductive OctetOrder where
  | bigEndian
  | littleEndian
  deriving DecidableEq, Repr

/-- An encoding of text, with the number of octets its mark takes up. -/
inductive Encoding where
  | utf8 (mark : Nat)
  | utf16 (order : OctetOrder) (mark : Nat)
  | utf32 (order : OctetOrder) (mark : Nat)
  deriving DecidableEq, Repr

/-- The encoding that the first octets show. -/
def detectEncoding : List UInt8 → Encoding
  | 0x00 :: 0x00 :: 0xfe :: 0xff :: _ => .utf32 .bigEndian 4
  | 0xff :: 0xfe :: 0x00 :: 0x00 :: _ => .utf32 .littleEndian 4
  | 0xfe :: 0xff :: _ => .utf16 .bigEndian 2
  | 0xff :: 0xfe :: _ => .utf16 .littleEndian 2
  | 0xef :: 0xbb :: 0xbf :: _ => .utf8 3
  | first :: second :: third :: fourth :: _ =>
    if first = 0 then
      if second = 0 then .utf32 .bigEndian 0 else .utf16 .bigEndian 0
    else if second = 0 then
      if third = 0 && fourth = 0 then .utf32 .littleEndian 0 else .utf16 .littleEndian 0
    else .utf8 0
  | [first, second] =>
    if first = 0 then .utf16 .bigEndian 0
    else if second = 0 then .utf16 .littleEndian 0
    else .utf8 0
  | _ => .utf8 0

/-- Two octets as a number. -/
def unitOf (order : OctetOrder) (first second : UInt8) : Nat :=
  match order with
  | .bigEndian => first.toNat * 256 + second.toNat
  | .littleEndian => second.toNat * 256 + first.toNat

/-- Octets taken in pairs; `none` when one is left over. -/
def readUnits (order : OctetOrder) : List UInt8 → Option (List Nat)
  | [] => some []
  | [_] => none
  | first :: second :: rest => (readUnits order rest).map (unitOf order first second :: ·)

/-- Pairs of units as numbers of four octets. -/
def pairUnits (order : OctetOrder) : List Nat → Option (List Nat)
  | [] => some []
  | [_] => none
  | first :: second :: rest =>
    let value := match order with
      | .bigEndian => first * 0x10000 + second
      | .littleEndian => second * 0x10000 + first
    if value ≤ 0x10ffff then (pairUnits order rest).map (value :: ·) else none

/-- Read octets in the given encoding; `none` when they are ill formed. -/
def decodeAs? (octets : List UInt8) : Encoding → Option (List Char)
  | .utf8 mark => decodeTornUtf8? (octets.drop mark)
  | .utf16 order mark => (readUnits order (octets.drop mark)).map joinSurrogates
  | .utf32 order mark => do
    let units ← readUnits order (octets.drop mark)
    let points ← pairUnits order units
    return points.map charOfUnit

/-- Read the octets of a JSON text in the encoding they show. -/
def decodeDetected? (octets : List UInt8) : Option (List Char) :=
  decodeAs? octets (detectEncoding octets)

end Mailroom.Text
