/-
TreeTemplate.Text.Bytes — texts as bytes.

A byte is a number below 256. In UTF-8 a code point takes one to four
bytes, in UTF-16 two or four, in UTF-32 four. Lone surrogates are spelled
like other code points, by their number.

* `Text.utf8` — the bytes of a text.
* `Text.ofUtf8` — the text of bytes; what is no UTF-8 is replaced.
* `Text.ofUtf16?`, `Text.ofUtf32?` — the text of bytes, with the greater
  byte first or last.
-/
import TreeTemplate.Text.CodePoint

namespace TreeTemplate

/-! ## 1. UTF-8 -/

/-- The bytes of a code point. -/
def CodePoint.utf8 (c : CodePoint) : List Nat :=
  let n := c.value
  if n < 0x80 then [n]
  else if n < 0x800 then [0xC0 + n / 64, 0x80 + n % 64]
  else if n < 0x10000 then [0xE0 + n / 4096, 0x80 + n / 64 % 64, 0x80 + n % 64]
  else [0xF0 + n / 262144, 0x80 + n / 4096 % 64, 0x80 + n / 64 % 64, 0x80 + n % 64]

namespace Text

/-- The bytes of a text. -/
def utf8 (t : Text) : List Nat := t.flatMap CodePoint.utf8

/-- What the first byte of a code point tells: how many bytes follow, the
least and the greatest for the next, and the bits of the number. -/
def firstByte? (b : Nat) : Option (Nat × Nat × Nat × Nat) :=
  if b < 0x80 then some (0, 0x80, 0xBF, b)
  else if b < 0xC2 then none
  else if b < 0xE0 then some (1, 0x80, 0xBF, b - 0xC0)
  else if b < 0xF0 then
    some (2, if b = 0xE0 then 0xA0 else 0x80, if b = 0xED then 0x9F else 0xBF, b - 0xE0)
  else if b < 0xF5 then
    some (3, if b = 0xF0 then 0x90 else 0x80, if b = 0xF4 then 0x8F else 0xBF, b - 0xF0)
  else none

/-- The number that goes on in the given count of bytes, if they are there,
and the bytes after those that belong to it. -/
def followingBytes : Nat → Nat → Nat → Nat → List Nat → Option Nat × List Nat
  | 0, _, _, n, bytes => (some n, bytes)
  | _ + 1, _, _, _, [] => (none, [])
  | count + 1, least, greatest, n, b :: rest =>
    if least ≤ b ∧ b ≤ greatest then followingBytes count 0x80 0xBF (64 * n + (b - 0x80)) rest
    else (none, b :: rest)

theorem followingBytes_suffix (count least greatest n : Nat) (bytes : List Nat) :
    (followingBytes count least greatest n bytes).2 <:+ bytes := by
  induction count generalizing least greatest n bytes with
  | zero => exact List.suffix_refl _
  | succ count ih =>
    cases bytes with
    | nil => exact List.suffix_refl _
    | cons b rest =>
      unfold followingBytes
      split
      · exact (ih 0x80 0xBF _ rest).trans (List.suffix_cons b rest)
      · exact List.suffix_refl _

/-- The first code point of bytes, and the bytes after it. Bytes that begin
none are replaced as far as they might have begun one. -/
def firstCodePoint (b : Nat) (rest : List Nat) : CodePoint × List Nat :=
  match firstByte? b with
  | none => (.scalar '\uFFFD', rest)
  | some (count, least, greatest, n) =>
    let (number, after) := followingBytes count least greatest n rest
    ((number.map CodePoint.ofNat).getD (.scalar '\uFFFD'), after)

theorem firstCodePoint_suffix (b : Nat) (rest : List Nat) :
    (firstCodePoint b rest).2 <:+ rest := by
  unfold firstCodePoint
  split
  · exact List.suffix_refl _
  · exact followingBytes_suffix _ _ _ _ _

/-- The text of bytes in UTF-8. -/
def ofUtf8 : List Nat → Text
  | [] => []
  | b :: rest => (firstCodePoint b rest).1 :: ofUtf8 (firstCodePoint b rest).2
termination_by bytes => bytes.length
decreasing_by
  have := (firstCodePoint_suffix b rest).length_le
  simp only [List.length_cons]; omega

/-! ## 2. Wider units -/

/-- The number of bytes with the greatest first. -/
def numberOfBytes (bytes : List Nat) : Nat := bytes.foldl (fun n b => 256 * n + b) 0

/-- Bytes in units of two, with the greater byte first or last. -/
def pairsOfBytes? (greatestFirst : Bool) : List Nat → Option (List Nat)
  | [] => some []
  | [_] => none
  | a :: b :: rest =>
    (pairsOfBytes? greatestFirst rest).map
      (numberOfBytes (if greatestFirst then [a, b] else [b, a]) :: ·)

/-- Bytes in units of four. -/
def quadsOfBytes? (greatestFirst : Bool) : List Nat → Option (List Nat)
  | [] => some []
  | a :: b :: c :: d :: rest =>
    (quadsOfBytes? greatestFirst rest).map
      (numberOfBytes (if greatestFirst then [a, b, c, d] else [d, c, b, a]) :: ·)
  | _ => none

/-- The code point beyond sixteen bits that two units spell. -/
def ofPair? (high low : Nat) : Option CodePoint :=
  if 0xD800 ≤ high ∧ high < 0xDC00 ∧ 0xDC00 ≤ low ∧ low < 0xE000 then
    some (.ofNat (0x10000 + (high - 0xD800) * 0x400 + (low - 0xDC00)))
  else none

/-- The text of units of sixteen bits. -/
def ofUnits : List Nat → Text
  | [] => []
  | [unit] => [.ofNat unit]
  | high :: low :: rest =>
    match ofPair? high low with
    | some c => c :: ofUnits rest
    | none => .ofNat high :: ofUnits (low :: rest)

/-- The text of bytes in UTF-16. -/
def ofUtf16? (greatestFirst : Bool) (bytes : List Nat) : Option Text :=
  (pairsOfBytes? greatestFirst bytes).map ofUnits

/-- The text of bytes in UTF-32. -/
def ofUtf32? (greatestFirst : Bool) (bytes : List Nat) : Option Text := do
  (← quadsOfBytes? greatestFirst bytes).mapM CodePoint.ofNat?

end Text

end TreeTemplate
