/-
Names as messages show them: between double quotes, with every character that a reader could not
tell apart written as an escape.
-/
import AdaGlue.Text.Combining
import AdaGlue.Text.Unprintable

namespace AdaGlue.Text

/-- The code point in lowercase hexadecimal, no leading zeros, between braces. -/
def codePointEscape (c : Char) : String :=
  "\\u\x7b" ++ String.ofList (Nat.toDigits 16 c.toNat) ++ "\x7d"

/-- Printable characters stand for themselves; combining marks would attach to the quote or to
the character before them, so they are escaped too. -/
def quoteChar (c : Char) : String :=
  if c = '\x00' then "\\0"
  else if c = '\t' then "\\t"
  else if c = '\r' then "\\r"
  else if c = '\n' then "\\n"
  else if c = '\\' then "\\\\"
  else if c = '"' then "\\\""
  else if ' ' ≤ c ∧ c ≤ '~' then c.toString
  else if isCombining c || isUnprintable c then codePointEscape c
  else c.toString

/-- The text between double quotes. -/
def quoted (s : String) : String :=
  "\"" ++ String.join (s.toList.map quoteChar) ++ "\""

end AdaGlue.Text
