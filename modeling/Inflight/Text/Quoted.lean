import Inflight.Text.Seen

/-!
# Quoted text in messages

A message that quotes a text of the reader's document shows it between double
quotes, with what would break the line or the quotes escaped, and what a reader could
not see.
-/

namespace Inflight.Text

set_option autoImplicit false

/-- A code point between braces, in hexadecimal. -/
def bracedEscape (c : Char) : List Char :=
  ['\\', 'u', '\x7b'] ++ Nat.toDigits 16 c.toNat ++ ['\x7d']

/-- One character of a quoted text. -/
def quoteChar (c : Char) : List Char :=
  if c = '"' then ['\\', '"']
  else if c = '\\' then ['\\', '\\']
  else if c = '\n' then ['\\', 'n']
  else if c = '\r' then ['\\', 'r']
  else if c = '\t' then ['\\', 't']
  else if c = '\x00' then ['\\', '0']
  else if isSeen c then [c]
  else bracedEscape c

/-- A text between double quotes, escaped. -/
def quoted (text : String) : String :=
  String.ofList ('"' :: text.toList.flatMap quoteChar ++ ['"'])

/-- Quotes and line ends are escaped, and so is what has no glyph. -/
example : quoted "a\"b\n\x1b" = "\"a\\\"b\\n\\u\x7b1b\x7d\"" := by decide +kernel

end Inflight.Text
