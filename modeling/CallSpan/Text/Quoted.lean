import CallSpan.Text.Printable

/-!
# Quoted texts

A text is shown between quotation marks. A quotation mark and a backslash get a
backslash before them, five controls have a letter, and every other character
that is not printable is spelled by its code point, in hexadecimal without
leading zeros.

* `quoted` — the shown form.
-/

namespace CallSpan.Text

/-- The digits of a code point in lower-case hexadecimal. -/
def codePoint (c : Char) : List Char :=
  Nat.toDigits 16 c.toNat

/-- A character as it stands between quotation marks. -/
def escaped (c : Char) : List Char :=
  if c = '"' then ['\\', '"']
  else if c = '\\' then ['\\', '\\']
  else if c = '\n' then ['\\', 'n']
  else if c = '\t' then ['\\', 't']
  else if c = '\r' then ['\\', 'r']
  else if c.toNat = 0 then ['\\', '0']
  else if isPrintable c then [c]
  else '\\' :: 'u' :: Char.ofNat 0x7B :: (codePoint c ++ [Char.ofNat 0x7D])

def quoted (s : String) : String :=
  String.ofList ('"' :: (s.toList.flatMap escaped ++ ['"']))

end CallSpan.Text
