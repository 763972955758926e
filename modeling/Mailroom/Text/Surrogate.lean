/-!
# Halves of surrogate pairs

A character beyond the basic plane is written in sixteen-bit units as a pair of
surrogates. A half without its partner is no character, yet a text may hold one:
it is kept as a stand-in, one of the code points U+DD800 to U+DDFFF. Such a torn
text can be compared and passed on, but it has no octets.

The stand-ins are code points themselves, though none of them is assigned to a
character. A text that holds one of them on its own account cannot be told from
a torn text: it is taken for one, and the code point for the half. So a whole
text, one that is not torn, is a text without halves and without these 2048
code points.
-/

namespace Mailroom.Text

/-- Whether a number is the first half of a surrogate pair. -/
def isHighSurrogate (unit : Nat) : Bool := 0xd800 ≤ unit && unit ≤ 0xdbff

/-- Whether a number is the second half of a surrogate pair. -/
def isLowSurrogate (unit : Nat) : Bool := 0xdc00 ≤ unit && unit ≤ 0xdfff

/-- The distance between a half and its stand-in. -/
def standInDistance : Nat := 0xd0000

/-- The character of a number, a half of a pair as its stand-in. -/
def charOfUnit (unit : Nat) : Char :=
  if isHighSurrogate unit || isLowSurrogate unit then Char.ofNat (unit + standInDistance)
  else Char.ofNat unit

/-- The character that two halves make. -/
def joinedPair (high low : Nat) : Char :=
  Char.ofNat (0x10000 + (high - 0xd800) * 0x400 + (low - 0xdc00))

/-- The characters of units, where neighbouring halves are joined. -/
def joinSurrogates : List Nat → List Char
  | [] => []
  | [unit] => [charOfUnit unit]
  | high :: low :: rest =>
    if isHighSurrogate high && isLowSurrogate low then joinedPair high low :: joinSurrogates rest
    else charOfUnit high :: joinSurrogates (low :: rest)

/-- Whether a character is one of the 2048 that stand in for a half. -/
def isHalf (character : Char) : Bool :=
  0xdd800 ≤ character.toNat && character.toNat ≤ 0xddfff

/-- The number of a character, or of the half that it stands in for. -/
def codePoint (character : Char) : Nat :=
  if isHalf character then character.toNat - standInDistance else character.toNat

/-- Whether a text holds a half without its partner, or a character that is
taken for one. -/
def isTorn (text : String) : Bool := text.toList.any isHalf

end Mailroom.Text
