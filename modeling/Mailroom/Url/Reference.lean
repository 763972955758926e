import Mailroom.Text.Blank
import Mailroom.Text.Letter
import Mailroom.Url.Host

/-!
# The path of a URL

A URL is split at its marks: the scheme ends at a colon, the authority follows
two slashes, the query follows a question mark and the fragment a hash sign.
Schemes of hierarchical form take parameters off the last segment of the path.
-/

namespace Mailroom.Url

open Text

/-- Schemes whose last segment may carry parameters after a semicolon. -/
def parameterSchemes : List String :=
  ["", "ftp", "hdl", "prospero", "http", "imap", "https", "shttp", "rtsp", "rtsps", "rtspu", "sip",
    "sips", "mms", "sftp", "tel"]

/-- Characters of a scheme. -/
def isSchemeChar (character : Char) : Bool :=
  character.isAlphanum || character = '+' || character = '-' || character = '.'

/-- Remove leading controls and spaces, and tabs and line ends everywhere. -/
def cleaned (text : List Char) : List Char :=
  (text.dropWhile fun character => character.toNat ≤ 0x20).filter fun character =>
    !(character = '\t' || character = '\n' || character = '\r')

/-- The scheme in lower case and the rest; no scheme when the text before the
first colon is none. -/
def splitScheme (text : List Char) : String × List Char :=
  match cutAt ':' text with
  | (first :: more, some rest) =>
    if first.isAlpha && (first :: more).all isSchemeChar then
      (lower (String.ofList (first :: more)), rest)
    else ("", text)
  | _ => ("", text)

/-- The authority after two slashes and the rest. -/
def splitAuthority : List Char → List Char × List Char
  | '/' :: '/' :: rest =>
    let isEnd (character : Char) : Bool := character = '/' || character = '?' || character = '#'
    (rest.takeWhile (!isEnd ·), rest.dropWhile (!isEnd ·))
  | rest => ([], rest)

/-- The path without the parameters of its last segment. -/
def withoutParameters (path : List Char) : List Char :=
  throughLast '/' path ++ (cutAt ';' (afterLast '/' path)).1

/-- The path of a URL; `none` when its authority is malformed. -/
def path? (url : String) : Option (List Char) :=
  let (scheme, rest) := splitScheme (cleaned url.toList)
  let (authority, rest) := splitAuthority rest
  if isAuthority authority then
    let path := (cutAt '?' (cutAt '#' rest).1).1
    some (if parameterSchemes.contains scheme then withoutParameters path else path)
  else none

/-- The last segment of the path of a URL, slashes at its end aside. -/
def lastSegment? (url : String) : Option String :=
  (path? url).map fun path => String.ofList (afterLast '/' (dropEndWhile (· = '/') path))

end Mailroom.Url
