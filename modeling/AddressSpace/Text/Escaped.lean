import AddressSpace.Text.Numeral
import AddressSpace.Text.Printable

/-!
# Strings as error messages quote them

An error message that shows a string writes it between double quotes, with `\0`, `\t`,
`\r`, `\n`, `\\` and `\"` for those characters, and `\u{hex}` (lowercase, no leading
zeros) for a character that does not print on its own (`Text.isPrintable`) or that would
attach to the character before it (`Text.isGraphemeExtend`).

* `Text.escapedChar` — the form of one character;
* `Text.escapedQuote` — the quoted form.
-/

namespace AddressSpace.Text

/-- The form of one character inside a quoted string of an error message. -/
def escapedChar (c : Char) : List Char :=
  if c = '\x00' then ['\\', '0']
  else if c = '\t' then ['\\', 't']
  else if c = '\r' then ['\\', 'r']
  else if c = '\n' then ['\\', 'n']
  else if c = '\\' then ['\\', '\\']
  else if c = '"' then ['\\', '"']
  else if isGraphemeExtend c || !isPrintable c then
    ['\\', 'u', '\x7b'] ++ (Numeral.hexLower 0 c.toNat).toList ++ ['\x7d']
  else [c]

/-- A string between double quotes, escaped as error messages show it. -/
def escapedQuote (s : String) : String :=
  String.ofList ('"' :: s.toList.flatMap escapedChar ++ ['"'])

end AddressSpace.Text
