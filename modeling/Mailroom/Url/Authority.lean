import Mailroom.Fault
import Mailroom.Text.Base64
import Mailroom.Text.Letter
import Mailroom.Text.Percent
import Mailroom.Text.Whole
import Mailroom.Url.Host
import Mailroom.Url.Label

/-!
# The authority of a request's URL

An authority names a user, a host and a port. The host is an address in numbers,
an address in brackets, or a name that goes out in ASCII; the port is a whole
number and is left out when it is the one of the scheme. A user authenticates
the request.
-/

namespace Mailroom.Url

open Text

/-- Printable ASCII characters without the given ones. -/
def isVisibleExcept (excluded : List Char) (character : Char) : Bool :=
  0x20 < character.toNat && character.toNat < 0x7f && !excluded.contains character

/-- Characters that stand in a user's name and password. -/
def isUserChar : Char → Bool :=
  isVisibleExcept ['"', '#', '<', '>', '?', '`', '\x7b', '\x7d', '/', ';', '=', '@', '[', '\\', ']',
    '^', '|']

/-- Characters that stand in the name of a host. -/
def isHostChar (character : Char) : Bool :=
  isUnreserved character ||
    ['!', '$', '&', '\'', '(', ')', '*', '+', ',', ';', '=', '"', '`', '\x7b', '\x7d', '%', '|',
      '\\'].contains character

/-- Escape the characters that must not stand in a part. -/
def escape (safe : Char → Bool) (part : List Char) : Except Fault (List Char) :=
  match part.find? isHalf with
  | some half => .error (.unencodable ⟨.unicode, 0, half, 0⟩)
  | none => .ok (part.flatMap (percentChar safe))

/-- Where a run of figures with characters between them has been read up to: the
number of figure runs begun, and whether the last one has a figure yet. -/
abbrev NumberedPlace := Nat × Bool

/-- The places after one more character; any character may end a run of figures. -/
def stepNumbered (places : List NumberedPlace) (character : Char) : List NumberedPlace :=
  let inside := if character.isDigit then places.map fun place => (place.1, true) else []
  let beyond := (places.filter (·.2)).map fun place => (place.1 + 1, false)
  (inside ++ beyond).eraseDups.filter (·.1 ≤ 4)

/-- Whether a host is four runs of figures, with one character between each two. -/
def isNumbered (host : List Char) : Bool :=
  (host.foldl stepNumbered [(1, false)]).contains (4, true)

/-- A host as it goes out, without the brackets around it. -/
def hostName (host : List Char) : Except Fault (List Char) :=
  let ofCheck (isHost : Bool) (name : List Char) : Except Fault (List Char) :=
    if isHost then .ok name else .error .badUrl
  if isNumbered host then ofCheck (isAddress4 host) host
  else if host.head? = some '[' && host.getLast? = some ']' then
    let inside := (host.drop 1).dropLast
    ofCheck (isZonedAddress6 inside) inside
  else if host.all (·.toNat < 0x80) then escape isHostChar (host.map Char.toLower)
  else
    match asciiName? (lower (String.ofList host)).toList with
    | some name => .ok name
    | none => .error .badUrl

/-- The port that a scheme has by default. -/
def defaultPort? (scheme : List Char) : Option Int :=
  [("http", 80), ("https", 443), ("ws", 80), ("wss", 443), ("ftp", 21)].lookup (String.ofList scheme)

/-- The port of a text, none if it is empty or the port of the scheme. -/
def portOf (scheme text : List Char) : Except Fault (Option Int) :=
  if text.isEmpty then .ok none
  else
    match readWhole (String.ofList text) with
    | none => .error .badUrl
    | some port => .ok (if defaultPort? scheme = some port then none else some port)

/-- The user, host and port of an authority. -/
structure Authority where
  user : List Char := []
  host : List Char := []
  port : Option Int := none

namespace Authority

/-- The text of a host and the text behind it; a colon between them is dropped. -/
def splitHost (text : List Char) : List Char × List Char :=
  let bracketed := throughLast ']' text
  let host :=
    if text.head? = some '[' && !bracketed.isEmpty then bracketed else text.takeWhile (· ≠ ':')
  match text.drop host.length with
  | ':' :: port => (host, port)
  | port => (host, port)

/-- Read an authority of a URL with a scheme. -/
def read (scheme text : List Char) : Except Fault Authority := do
  let hostAndPort := afterLast '@' text
  let user ← escape isUserChar (text.take (text.length - hostAndPort.length)).dropLast
  let (host, port) := splitHost hostAndPort
  let host ← hostName host
  return { user, host, port := ← portOf scheme port }

/-- Whether an authority says nothing. -/
def isEmpty (authority : Authority) : Bool :=
  authority.user.isEmpty && authority.host.isEmpty && authority.port.isNone

/-- An authority as it goes out; a host with colons stands in brackets. -/
def chars (authority : Authority) : List Char :=
  (if authority.user.isEmpty then [] else authority.user ++ ['@']) ++
  (if authority.host.contains ':' then '[' :: authority.host ++ [']'] else authority.host) ++
    match authority.port with
    | some port => ':' :: (toString port).toList
    | none => []

/-- The octets of a name or password without its escapes; octets that are no
text are replaced. -/
def plainOctets (part : List Char) : List UInt8 :=
  utf8Octets (decodeUtf8Lossy (percentDecoded part))

/-- The header value by which the user of an authority authenticates a request. -/
def authorization? (authority : Authority) : Option String :=
  let (name, password) := cutAt ':' authority.user
  let password := password.getD []
  if name.isEmpty && password.isEmpty then none
  else
    some ("Basic " ++ String.ofList
      (base64 (plainOctets name ++ utf8Octets [':'] ++ plainOctets password)))

end Authority
end Mailroom.Url
