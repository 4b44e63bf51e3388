/-
TreeTemplate.Text.Quoted — texts between quotes, for messages.

A quoted text stands between apostrophes, or between double quotes if it
holds an apostrophe and no double quote. The quote in use and the
backslash are written after a backslash, and so are tab, line feed and
carriage return as letters; every other code point without a visible form
becomes an escape of two, four or eight hexadecimal digits.
-/
import TreeTemplate.Text.Printable

namespace TreeTemplate.Text

/-- The hexadecimal digit for a number below sixteen. -/
def hexDigit (n : Nat) : CodePoint :=
  .scalar (Char.ofNat (if n < 10 then 48 + n else 87 + n))

/-- A number in hexadecimal, in the given count of digits. -/
def hex : Nat → Nat → Text
  | 0, _ => []
  | width + 1, n => hex width (n / 16) ++ [hexDigit (n % 16)]

/-- The escape of a code point by its number. -/
def numberEscape (c : CodePoint) : Text :=
  let n := c.value
  if n < 0x100 then "\\x" ++ hex 2 n
  else if n < 0x10000 then "\\u" ++ hex 4 n
  else "\\U" ++ hex 8 n

/-- A code point as it stands between the given quotes. -/
def quotedCodePoint (quote c : CodePoint) : Text :=
  if c = quote ∨ c = .scalar '\\' then [.scalar '\\', c]
  else if c = .scalar '\t' then "\\t"
  else if c = .scalar '\n' then "\\n"
  else if c = .scalar '\r' then "\\r"
  else if c.isPrintable then [c]
  else numberEscape c

/-- The quote for a text. -/
def quoteFor (t : Text) : CodePoint :=
  if t.holds (.scalar '\'') && !t.holds (.scalar '"') then .scalar '"' else .scalar '\''

/-- The text between quotes. -/
def quoted (t : Text) : Text :=
  let quote := quoteFor t
  quote :: t.flatMap (quotedCodePoint quote) ++ [quote]

end TreeTemplate.Text
