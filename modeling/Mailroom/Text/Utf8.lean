import Mailroom.Text.Surrogate

/-!
# UTF-8

Text as octets and back. Reading runs through the octets once with the state of
the character that is being put together. An octet that cannot continue it ends
the ill-formed piece and is then read afresh, so a run of damaged octets yields
one mark for each longest piece that some character could start with. Halves of
surrogate pairs are ill formed, except for a reader that lets them pass.
-/

namespace Mailroom.Text

/-- The octets of a list of characters. -/
def utf8Octets (characters : List Char) : List UInt8 :=
  characters.flatMap String.utf8EncodeChar

/-- A character of which `missing + 1` octets are still to come, the next one
between `low` and `high`. -/
structure PartialChar where
  value : Nat
  missing : Nat
  low : Nat
  high : Nat

/-- What the first octet of a character says: a whole character, a character to
be continued, or nothing that can start one. -/
def startChar (passesHalves : Bool) (octet : Nat) : Option (Char ⊕ PartialChar) :=
  if octet < 0x80 then some (.inl (Char.ofNat octet))
  else if 0xc2 ≤ octet && octet ≤ 0xdf then some (.inr ⟨octet - 0xc0, 0, 0x80, 0xbf⟩)
  else if octet = 0xe0 then some (.inr ⟨0, 1, 0xa0, 0xbf⟩)
  else if octet = 0xed then some (.inr ⟨0xd, 1, 0x80, if passesHalves then 0xbf else 0x9f⟩)
  else if 0xe1 ≤ octet && octet ≤ 0xef then some (.inr ⟨octet - 0xe0, 1, 0x80, 0xbf⟩)
  else if octet = 0xf0 then some (.inr ⟨0, 2, 0x90, 0xbf⟩)
  else if 0xf1 ≤ octet && octet ≤ 0xf3 then some (.inr ⟨octet - 0xf0, 2, 0x80, 0xbf⟩)
  else if octet = 0xf4 then some (.inr ⟨4, 2, 0x80, 0x8f⟩)
  else none

/-- Read an octet that stands where a character starts: what is finished, with
`none` for an ill-formed piece, and the character that is to be continued. -/
def readFirst (passesHalves : Bool) (octet : Nat) : List (Option Char) × Option PartialChar :=
  match startChar passesHalves octet with
  | some (.inl character) => ([some character], none)
  | some (.inr started) => ([], some started)
  | none => ([none], none)

/-- Read an octet after a character that is to be continued, or where one starts. -/
def readOctet (passesHalves : Bool) :
    Option PartialChar → Nat → List (Option Char) × Option PartialChar
  | none, octet => readFirst passesHalves octet
  | some pending, octet =>
    if pending.low ≤ octet && octet ≤ pending.high then
      let value := pending.value * 64 + (octet - 0x80)
      match pending.missing with
      | 0 => ([some (charOfUnit value)], none)
      | missing + 1 => ([], some ⟨value, missing, 0x80, 0xbf⟩)
    else
      let (finished, pending) := readFirst passesHalves octet
      (none :: finished, pending)

/-- Read octets, with `none` for each ill-formed piece. -/
def readUtf8 (passesHalves : Bool) : Option PartialChar → List UInt8 → List (Option Char)
  | none, [] => []
  | some _, [] => [none]
  | pending, octet :: rest =>
    let (finished, pending) := readOctet passesHalves pending octet.toNat
    finished ++ readUtf8 passesHalves pending rest

/-- The mark that stands for an ill-formed piece. -/
def replacementChar : Char := Char.ofNat 0xfffd

/-- Read octets as text, replacing each ill-formed piece. -/
def decodeUtf8Lossy (octets : List UInt8) : List Char :=
  (readUtf8 false none octets).map (·.getD replacementChar)

/-- Read octets as text if they are well formed. -/
def decodeUtf8? (octets : List UInt8) : Option (List Char) :=
  (readUtf8 false none octets).mapM id

/-- Read octets as text that may be torn. -/
def decodeTornUtf8? (octets : List UInt8) : Option (List Char) :=
  (readUtf8 true none octets).mapM id

end Mailroom.Text
