import RemoteFlags.Text.Numeral
import RemoteFlags.Text.Shapeless

/-!
# Quoted texts

A text between double quotes, on one line and without invisible characters: the form in which error
messages show a text that stood in the wrong place.

## Main definitions

* `quoted s`: the text `s` between double quotes.
-/

namespace RemoteFlags.Text

/-- A character inside double quotes.  Quotes, backslashes, NUL, tabs and line breaks have a letter;
other characters without a shape of their own are written as their code point. -/
def quotedChar (c : Char) : List Char :=
  if c = '"' then ['\\', '"']
  else if c = '\\' then ['\\', '\\']
  else if c = '\t' then ['\\', 't']
  else if c = '\n' then ['\\', 'n']
  else if c = '\r' then ['\\', 'r']
  else if c = '\x00' then ['\\', '0']
  else if needsCodePoint c then
    ['\\', 'u', '\x7b'] ++ Nat.toDigits 16 c.toNat ++ ['\x7d']
  else [c]

/-- The text between double quotes. -/
def quoted (s : String) : String :=
  String.ofList ('"' :: s.toList.flatMap quotedChar ++ ['"'])

end RemoteFlags.Text
