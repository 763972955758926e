import Mailroom.Text.Decimal
import Mailroom.Text.Hex
import Mailroom.Text.Ranges
import Mailroom.Text.Split

/-!
# Hosts of a URL

A host in brackets is an IPv6 address or an address of a later version. A host
with characters that stand for others must not hide one of the marks that
separate the parts of a URL.
-/

namespace Mailroom.Url

open Text

/-- A number below 256 in decimal without leading zeros. -/
def isOctetText (characters : List Char) : Bool :=
  !characters.isEmpty && characters.all Char.isDigit && characters.length ≤ 3 &&
    (characters = ['0'] || characters.head? ≠ some '0') &&
    runValue characters ≤ 255

/-- Four numbers with points between them. -/
def isAddress4 (characters : List Char) : Bool :=
  let parts := splitOn '.' characters
  parts.length == 4 && parts.all isOctetText

/-- One to four hexadecimal digits. -/
def isGroup (characters : List Char) : Bool :=
  !characters.isEmpty && characters.length ≤ 4 &&
    characters.all fun character => (hexValue? character).isSome

/-- The groups of an address, an IPv4 address at the end counting as two. -/
def addressGroups? (characters : List Char) : Option (List (List Char)) :=
  let parts := splitOn ':' characters
  if parts.length < 3 then none
  else
    let last := parts.getLast?.getD []
    if last.contains '.' then
      if isAddress4 last then some (parts.dropLast ++ [['0'], ['0']]) else none
    else some parts

/-- Groups on one side of a gap, where the outer end is empty only if nothing
stands beside it. -/
def isGapSide (groups : List (List Char)) : Bool :=
  groups = [[]] || groups.all isGroup

/-- An IPv6 address: eight groups, or fewer with one gap. -/
def isAddress6 (characters : List Char) : Bool :=
  match addressGroups? characters with
  | none => false
  | some groups =>
    if 9 < groups.length then false
    else
      let inner := (groups.drop 1).dropLast
      match inner.idxOf? [] with
      | none => groups.length == 8 && groups.all isGroup
      | some place =>
        let high := groups.take (place + 1)
        let low := groups.drop (place + 2)
        let count (side : List (List Char)) := if side = [[]] then 0 else side.length
        (inner.drop (place + 1)).all (!·.isEmpty) && isGapSide high && isGapSide low &&
          count high + count low < 8

/-- An IPv6 address that may name a zone after a percent sign. -/
def isZonedAddress6 (characters : List Char) : Bool :=
  match cutAt '%' characters with
  | (address, none) => isAddress6 address
  | (address, some zone) => !zone.isEmpty && !zone.contains '%' && isAddress6 address

/-- An address of a later version: `v`, a number, a point and a name. -/
def isLaterAddress (characters : List Char) : Bool :=
  match cutAt '.' (characters.drop 1) with
  | (version, some name) =>
    !version.isEmpty && version.all (fun character => (hexValue? character).isSome) && !name.isEmpty
  | (_, none) => false

/-- Whether the text between brackets is a host. -/
def isBracketedHost (characters : List Char) : Bool :=
  if characters.head? = some 'v' then isLaterAddress characters
  else !characters.contains '/' && isZonedAddress6 characters

/-- Characters whose compatibility form holds one of the marks `/ ? # @ :`. -/
def markLikeRanges : List (Nat × Nat) :=
  [(0x2047, 0x2049), (0x2100, 0x2101), (0x2105, 0x2106), (0x2a74, 0x2a74), (0xfe13, 0xfe13),
    (0xfe16, 0xfe16), (0xfe55, 0xfe56), (0xfe5f, 0xfe5f), (0xfe6b, 0xfe6b), (0xff03, 0xff03),
    (0xff0f, 0xff0f), (0xff1a, 0xff1a), (0xff1f, 0xff20)]

/-- What stands behind the last at sign of an authority. -/
def withoutUser (authority : List Char) : List Char :=
  afterLast '@' authority

/-- Whether a host and its port, of an authority that holds brackets somewhere,
are well formed: nothing stands before the brackets, and only a port behind them. -/
def isHostWithBrackets (hostAndPort : List Char) : Bool :=
  match cutAt '[' hostAndPort with
  | (_, none) => isBracketedHost (cutAt ':' hostAndPort).1
  | (before, some rest) =>
    let (host, port) := cutAt ']' rest
    let port := port.getD []
    before.isEmpty && (port.isEmpty || port.head? = some ':') && isBracketedHost host

/-- Whether the authority of a URL has balanced brackets with a host in them
and hides no mark. -/
def isAuthority (authority : List Char) : Bool :=
  let opens := authority.contains '['
  let closes := authority.contains ']'
  opens == closes && (!opens || isHostWithBrackets (withoutUser authority)) &&
    authority.all fun character => !inRanges markLikeRanges character.toNat

end Mailroom.Url
