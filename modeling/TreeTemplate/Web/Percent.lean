/-
TreeTemplate.Web.Percent — code points spelled as bytes.

In an address a byte can be spelled as a percent sign and two hexadecimal
digits. What cannot stand in a part of an address as it is, is spelled by
its bytes.

* `Percent.encode`, `Percent.decode` — between texts and spellings.
-/
import TreeTemplate.Text.Bytes
import TreeTemplate.Text.Digit

namespace TreeTemplate.Percent

/-- A hexadecimal digit, a capital letter from ten on. -/
def hexDigit (n : Nat) : CodePoint :=
  .scalar (Char.ofNat (if n < 10 then 48 + n else 55 + n))

/-- A byte as a percent sign and two digits. -/
def ofByte (n : Nat) : Text := [.scalar '%', hexDigit (n / 16), hexDigit (n % 16)]

/-- A code point: as it is if it is visible, one of ASCII and not among
those that are spelled. -/
def ofCodePoint (spelled : Text) (c : CodePoint) : Text :=
  if 0x20 < c.value ∧ c.value < 0x7F ∧ c ∉ spelled then [c] else c.utf8.flatMap ofByte

/-- The text in which some code points are spelled as bytes. -/
def encode (spelled t : Text) : Text := t.flatMap (ofCodePoint spelled)

/-- The bytes that a text spells. -/
def bytesOf : Text → List Nat
  | .scalar '%' :: a :: b :: rest =>
    match a.hexValue?, b.hexValue? with
    | some high, some low => (16 * high + low) :: bytesOf rest
    | _, _ => 0x25 :: bytesOf (a :: b :: rest)
  | c :: rest => c.utf8 ++ bytesOf rest
  | [] => []
termination_by t => t.length

/-- The text that a text of ASCII spells. -/
def decode (t : Text) : Text := Text.ofUtf8 (bytesOf t)

end TreeTemplate.Percent
