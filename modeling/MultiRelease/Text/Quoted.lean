import MultiRelease.Text.Hidden

/-!
# Quoted text

The form in which a text or a path stands inside a description of a structure: between double
quotes, with a backslash before the characters that would end or break the quotation, and with
hidden characters written by their code point.
-/

set_option autoImplicit false

namespace MultiRelease.Text

/-- The code point of a character in lower-case hexadecimal, in braces after `\u`. -/
def codePointEscape (c : Char) : List Char :=
  ['\\', 'u', '\x7b'] ++ Nat.toDigits 16 c.toNat ++ ['\x7d']

/-- One character of a quoted text. -/
def quotedChar (c : Char) : List Char :=
  if c = '\x00' then ['\\', '0']
  else if c = '\t' then ['\\', 't']
  else if c = '\r' then ['\\', 'r']
  else if c = '\n' then ['\\', 'n']
  else if c = '\\' then ['\\', '\\']
  else if c = '\x22' then ['\\', '\x22']
  else if isHidden c then codePointEscape c
  else [c]

/-- A text in double quotes. -/
def quoted (text : String) : String :=
  String.ofList ('\x22' :: (text.toList.flatMap quotedChar ++ ['\x22']))

end MultiRelease.Text
