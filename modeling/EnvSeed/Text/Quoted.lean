import EnvSeed.Text.Printable

/-!
# Quoted text

A text in double quotes, on one line and with every character visible: the common controls, the
quote and the backslash are escaped by a letter, other invisible or combining characters by their
code point.
-/

namespace EnvSeed.Text

/-- A code point between braces, in lower-case hexadecimal. -/
def codePointEscape (c : Char) : List Char :=
  '\x5c' :: 'u' :: '\x7b' :: (Nat.toDigits 16 c.toNat ++ ['\x7d'])

/-- How a character is written inside quotes. -/
def escape (c : Char) : List Char :=
  if c = '\x00' then ['\x5c', '0']
  else if c = '\t' then ['\x5c', 't']
  else if c = '\r' then ['\x5c', 'r']
  else if c = '\n' then ['\x5c', 'n']
  else if c = '\x22' || c = '\x5c' then ['\x5c', c]
  else if isExtender c || !isPrintable c then codePointEscape c
  else [c]

/-- The text in quotes. -/
def quote (text : String) : String :=
  String.ofList ('\x22' :: (text.toList.flatMap escape ++ ['\x22']))

end EnvSeed.Text
