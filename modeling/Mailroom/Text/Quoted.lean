import Mailroom.Text.Encodable
import Mailroom.Text.Printable

/-!
# Quoted text

Quoting makes a text visible as a value: it stands between apostrophes, or
between quotation marks when it holds an apostrophe and no quotation mark.
The chosen mark, the backslash and every character that is not printable are
escaped.
-/

namespace Mailroom.Text

/-- The mark that encloses a text. -/
def quoteMark (characters : List Char) : Char :=
  if characters.contains '\'' && !characters.contains '"' then '"' else '\''

/-- One character as it stands between the marks. -/
def quotedChar (mark character : Char) : List Char :=
  if character = mark || character = '\\' then ['\\', character]
  else if character = '\t' then ['\\', 't']
  else if character = '\n' then ['\\', 'n']
  else if character = '\r' then ['\\', 'r']
  else if isPrintable character then [character]
  else Unencodable.pointEscape (codePoint character)

/-- A text between its marks. -/
def quoted (text : String) : String :=
  let mark := quoteMark text.toList
  String.ofList (mark :: text.toList.flatMap (quotedChar mark) ++ [mark])

end Mailroom.Text
