import Mailroom.Url.Authority

/-!
# The URL of a request

An address is taken apart into scheme, authority, path, query and fragment, its
path is freed of dot segments, and each part is escaped by its own rules; what
is escaped already stays as it is. An address without scheme and host counts
from the root of another one.
-/

namespace Mailroom.Url

open Text

/-- The longest address, and the longest part of one. -/
def maxLength : Nat := 65536

/-- Characters that stand in a path. -/
def isPathChar : Char → Bool := isVisibleExcept ['"', '#', '<', '>', '?', '`', '\x7b', '\x7d']

/-- Characters that stand in a query. -/
def isQueryChar : Char → Bool := isVisibleExcept ['"', '#', '<', '>']

/-- Characters that stand in a fragment. -/
def isFragmentChar : Char → Bool := isVisibleExcept ['"', '<', '>', '`']

/-- The parts of an address as they are written. -/
structure Parts where
  scheme : List Char := []
  authority : List Char := []
  path : List Char := []
  query : Option (List Char) := none
  fragment : Option (List Char) := none

/-- Characters of a scheme after its first letter. -/
def isSchemeTail (character : Char) : Bool :=
  character.isAlphanum || character = '+' || character = '.' || character = '-'

/-- The scheme and the rest. -/
def cutScheme (text : List Char) : List Char × List Char :=
  match cutAt ':' text with
  | (first :: more, some rest) =>
    if first.isAlpha && more.all isSchemeTail then (first :: more, rest) else ([], text)
  | ([], some rest) => ([], rest)
  | _ => ([], text)

/-- Take an address apart. -/
def Parts.ofChars (text : List Char) : Parts :=
  let (scheme, rest) := cutScheme text
  let (authority, rest) := match rest with
    | '/' :: '/' :: rest =>
      let isEnd (character : Char) : Bool := character = '/' || character = '?' || character = '#'
      (rest.takeWhile (!isEnd ·), rest.dropWhile (!isEnd ·))
    | rest => ([], rest)
  let (rest, fragment) := cutAt '#' rest
  let (path, query) := cutAt '?' rest
  ⟨scheme, authority, path, query, fragment⟩

/-- Follow the dot segments of a path. -/
def followDots (kept : List (List Char)) : List (List Char) → List (List Char)
  | [] => kept
  | segment :: rest =>
    if segment = ['.'] then followDots kept rest
    else if segment = ['.', '.'] then
      followDots (if kept = [[]] then kept else kept.dropLast) rest
    else followDots (kept ++ [segment]) rest

/-- A path without dot segments. -/
def withoutDots (path : List Char) : List Char :=
  ['/'].intercalate (followDots [] (splitOn '/' path))

/-- Whether a path may follow: after an authority it starts with a slash, and
without scheme and authority it starts neither with two slashes nor with a colon. -/
def isPathAllowed (hasScheme hasAuthority : Bool) (path : List Char) : Bool :=
  if hasAuthority then path.isEmpty || path.head? = some '/'
  else hasScheme || (!(['/', '/'].isPrefixOf path) && path.head? ≠ some ':')

/-- An address whose parts are written as they go out. -/
structure Target where
  scheme : List Char
  authority : Authority
  path : List Char
  query : Option (List Char)
  fragment : Option (List Char)

namespace Target

/-- Write the parts of an address as they go out. -/
def ofParts (parts : Parts) : Except Fault Target := do
  let authority ← Authority.read parts.scheme parts.authority
  let hasScheme := !parts.scheme.isEmpty
  let hasAuthority := !authority.isEmpty
  unless isPathAllowed hasScheme hasAuthority parts.path do throw .badUrl
  let path := if hasScheme || hasAuthority then withoutDots parts.path else parts.path
  return {
    scheme := parts.scheme.map Char.toLower
    authority
    path := ← escape isPathChar path
    query := ← parts.query.mapM (escape isQueryChar)
    fragment := ← parts.fragment.mapM (escape isFragmentChar) }

/-- Read an address. -/
def read (address : String) : Except Fault Target :=
  let characters := address.toList
  let isControl (character : Char) : Bool := character.toNat < 0x20 || character.toNat = 0x7f
  if maxLength < characters.length || characters.any isControl then .error .badUrl
  else ofParts (Parts.ofChars characters)

/-- Whether an address names a scheme and a host. -/
def isAbsolute (target : Target) : Bool :=
  !target.scheme.isEmpty && !target.authority.host.isEmpty

/-- The parts of an address, to be written again. -/
def parts (target : Target) : Parts :=
  ⟨target.scheme, target.authority.chars, target.path, target.query, target.fragment⟩

/-- An address that counts from the root of another one. -/
def fromRoot (base : Parts) (target : Target) : Except Fault Target :=
  ofParts { base with path := '/' :: target.path.dropWhile (· = '/'), query := target.query }

/-- The address that a request goes to: as it was read, or from the root of
another one. -/
def resolved (base : Parts) (target : Target) : Except Fault Target :=
  if target.isAbsolute then .ok target else target.fromRoot base

/-- The address with another query. Its parts are read afresh for it. -/
def withQuery (target : Target) (query : List Char) : Except Fault Target :=
  let parts := { target.parts with query := some query }
  let isLong (part : List Char) : Bool := maxLength < part.length
  if isLong parts.authority || isLong parts.path || isLong query || parts.fragment.any isLong then
    .error .badUrl
  else ofParts parts

/-- A part behind its mark. -/
def marked (mark : Char) : Option (List Char) → List Char
  | some part => mark :: part
  | none => []

/-- The text of an address. -/
def text (target : Target) : String :=
  let authority := target.authority.chars
  String.ofList
    ((if target.scheme.isEmpty then [] else target.scheme ++ [':']) ++
      (if authority.isEmpty then [] else '/' :: '/' :: authority) ++
      target.path ++ marked '?' target.query ++ marked '#' target.fragment)

end Target
end Mailroom.Url
