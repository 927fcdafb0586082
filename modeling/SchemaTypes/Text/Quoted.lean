/-
Quoted text, the form in which a message shows a text that came from outside:
between double quotes, with every character that would not show as itself
written as an escape.
-/
import SchemaTypes.Text.GlyphTable

namespace SchemaTypes.Text

/-- A character by its code point, `\u` and the hexadecimal digits in braces. -/
def codeEscape (c : Char) : List Char :=
  '\\' :: 'u' :: '\x7b' :: (Nat.toDigits 16 c.toNat ++ ['\x7d'])

/-- One character between the quotes. -/
def quotedChar (c : Char) : List Char :=
  if c = '\x00' then ['\\', '0']
  else if c = '\t' then ['\\', 't']
  else if c = '\r' then ['\\', 'r']
  else if c = '\n' then ['\\', 'n']
  else if c = '\"' then ['\\', '\"']
  else if c = '\\' then ['\\', '\\']
  else if holds GlyphTable.combining c || holds GlyphTable.unprintable c then codeEscape c
  else [c]

/-- The text between double quotes. -/
def quoted (s : String) : String :=
  String.ofList ('\"' :: (s.toList.flatMap quotedChar ++ ['\"']))

end SchemaTypes.Text
