import TabNotes.Text.Hexadecimal
import TabNotes.Text.Printable

/-! # Quoted display of a text

The form in which a message shows a text: between single quotes, or between double quotes when the
text has a single quote and no double one.  The backslash and the quote in use are written after a
backslash, line feed, carriage return and tab as `\n`, `\r` and `\t`, and every other unprintable
character by its number in two, four or eight hexadecimal digits. -/

namespace TabNotes.Text

/-- One character of a quoted text. -/
def quotedChar (quote c : Char) : List Char :=
  if c == quote || c == '\\' then ['\\', c]
  else if c == '\n' then ['\\', 'n']
  else if c == '\r' then ['\\', 'r']
  else if c == '\t' then ['\\', 't']
  else if isPrintable c then [c]
  else if c.toNat < 0x100 then '\\' :: 'x' :: hexDigits 2 c.toNat
  else if c.toNat < 0x10000 then '\\' :: 'u' :: hexDigits 4 c.toNat
  else '\\' :: 'U' :: hexDigits 8 c.toNat

/-- The quote a text is shown in. -/
def quoteFor (cs : List Char) : Char :=
  if cs.contains '\'' && !cs.contains '"' then '"' else '\''

/-- A text as messages show it. -/
def quoted (s : String) : String :=
  let quote := quoteFor s.toList
  String.ofList (quote :: s.toList.flatMap (quotedChar quote) ++ [quote])

end TabNotes.Text
