/-
TreeTemplate.Markup.Reference — character references.

A reference begins with an ampersand and gives a character by its number or
by its name. The semicolon at its end may be missing. A name that is not
known as a whole is read by its longest known beginning; the rest of it
stays as it is.

* `Reference.read?` — the reference after an ampersand, and what follows.
* `Reference.text` — what a reference stands for.
* `decodeReferences` — a text with its references replaced.
-/
import TreeTemplate.Markup.EntityTable
import TreeTemplate.Markup.Error
import TreeTemplate.Text.Digit

namespace TreeTemplate

/-- A character reference, by number or by name. -/
inductive Reference where
  | decimal (digits : List Nat)
  | hexadecimal (digits : List Nat)
  | name (written : Text)
deriving DecidableEq

namespace Reference

/-! ## 1. What a reference stands for -/

/-- The characters meant by the numbers from U+0080 to U+009F, which are
controls; five of these stay. -/
def formerControls : List Nat :=
  [0x20AC, 0x81, 0x201A, 0x0192, 0x201E, 0x2026, 0x2020, 0x2021, 0x02C6, 0x2030, 0x0160,
    0x2039, 0x0152, 0x8D, 0x017D, 0x8F, 0x90, 0x2018, 0x2019, 0x201C, 0x201D, 0x2022, 0x2013,
    0x2014, 0x02DC, 0x2122, 0x0161, 0x203A, 0x0153, 0x9D, 0x017E, 0x0178]

/-- Whether the number belongs to a control or to no character, and is left
out. -/
def isLeftOut (n : Nat) : Bool :=
  (1 ≤ n && n ≤ 8) || n == 0xB || (0xE ≤ n && n ≤ 0x1F) || n == 0x7F
    || (0xFDD0 ≤ n && n ≤ 0xFDEF) || n % 0x10000 == 0xFFFE || n % 0x10000 == 0xFFFF

/-- The text that a number stands for. -/
def numberText (n : Nat) : Text :=
  if n = 0 then [.scalar '\uFFFD']
  else match if 0x80 ≤ n then formerControls[n - 0x80]? else none with
    | some m => [.ofNat m]
    | none =>
      if 0x10FFFF < n ∨ (0xD800 ≤ n ∧ n < 0xE000) then [.scalar '\uFFFD']
      else if isLeftOut n then []
      else [.ofNat n]

/-- The text that a name is known for. -/
def known? (written : Text) : Option Text :=
  match written with
  | [] => none
  | initial :: _ => (Entity.namesFrom initial).get? written

/-- The text for a name, by its longest known beginning of at most the
given length and at least two code points. -/
def byBeginning (written : Text) : Nat → Text
  | 0 => .scalar '&' :: written
  | 1 => .scalar '&' :: written
  | n + 2 =>
    match known? (written.take (n + 2)) with
    | some t => t ++ written.drop (n + 2)
    | none => byBeginning written (n + 1)

/-- The text that a reference stands for. -/
def text : Reference → Except MarkupError Text
  | decimal digits =>
    if Json.maxDigits < digits.length then .error (.tooManyDigits digits.length)
    else .ok (numberText (numberOf 10 digits))
  | hexadecimal digits => .ok (numberText (numberOf 16 digits))
  | name written => .ok (byBeginning written written.length)

/-! ## 2. Reading -/

/-- Whether a code point can stand in a name. -/
def inName (c : CodePoint) : Bool :=
  !(c = .scalar '\t' || c = .scalar '\n' || c = .scalar '\x0c' || c = .scalar ' '
    || c = .scalar '<' || c = .scalar '&' || c = .scalar '#' || c = .scalar ';')

/-- The text without a semicolon at its beginning. -/
def dropSemicolon : Text → Text
  | .scalar ';' :: rest => rest
  | t => t

/-- The number in hexadecimal, after the letter x. -/
def readHexadecimal? : Text → Option (Reference × Text)
  | .scalar c :: rest =>
    let digits := rest.takeWhile fun c => c.hexValue?.isSome
    if (c = 'x' ∨ c = 'X') ∧ digits ≠ [] then
      some (.hexadecimal (digits.filterMap CodePoint.hexValue?),
        dropSemicolon (rest.dropWhile fun c => c.hexValue?.isSome))
    else none
  | _ => none

/-- The name of at most 32 code points, and a semicolon. -/
def readName? (t : Text) : Option (Reference × Text) :=
  let name := (t.take 32).takeWhile inName
  let after := t.drop name.length
  if name = [] then none
  else match after with
    | .scalar ';' :: rest => some (.name (name ++ [.scalar ';']), rest)
    | _ => some (.name name, after)

/-- The reference after an ampersand, and what follows it. -/
def read? (t : Text) : Option (Reference × Text) :=
  match t with
  | .scalar '#' :: rest =>
    let digits := rest.takeWhile CodePoint.isAsciiDigit
    if digits ≠ [] then
      some (.decimal (digits.map (·.value - 48)),
        dropSemicolon (rest.dropWhile CodePoint.isAsciiDigit))
    else readHexadecimal? rest
  | _ => readName? t

/-! ## 3. What follows is shorter -/

theorem dropSemicolon_suffix (t : Text) : dropSemicolon t <:+ t := by
  unfold dropSemicolon
  split
  · exact List.suffix_cons _ _
  · exact List.suffix_refl _

theorem readHexadecimal?_suffix {t after : Text} {r : Reference}
    (h : readHexadecimal? t = some (r, after)) : after <:+ t := by
  unfold readHexadecimal? at h
  split at h
  · next c rest =>
    simp only at h
    split at h
    · cases h
      exact (dropSemicolon_suffix _).trans
        ((List.dropWhile_suffix _).trans (List.suffix_cons _ _))
    · cases h
  · cases h

theorem readName?_suffix {t after : Text} {r : Reference}
    (h : readName? t = some (r, after)) : after <:+ t := by
  simp only [readName?] at h
  split at h
  · cases h
  · split at h
    · next rest heq =>
      cases h
      exact (List.suffix_cons _ _).trans (heq ▸ List.drop_suffix _ _)
    · cases h
      exact List.drop_suffix _ _

theorem read?_suffix {t after : Text} {r : Reference}
    (h : read? t = some (r, after)) : after <:+ t := by
  unfold read? at h
  split at h
  · simp only at h
    split at h
    · cases h
      exact (dropSemicolon_suffix _).trans
        ((List.dropWhile_suffix _).trans (List.suffix_cons _ _))
    · exact (readHexadecimal?_suffix h).trans (List.suffix_cons _ _)
  · exact readName?_suffix h

end Reference

/-! ## 4. Replacing references -/

/-- The text in which each reference is replaced by what it stands for. -/
def decodeReferences (t : Text) : Except MarkupError Text :=
  match t with
  | [] => .ok []
  | c :: rest =>
    if c = .scalar '&' then
      match _read : Reference.read? rest with
      | none => (decodeReferences rest).map (c :: ·)
      | some (reference, after) =>
        match reference.text with
        | .ok found => (decodeReferences after).map (found ++ ·)
        | .error e => .error e
    else (decodeReferences rest).map (c :: ·)
termination_by t.length
decreasing_by
  · simp
  · have := (Reference.read?_suffix _read).length_le
    simp only [List.length_cons]; omega
  · simp

end TreeTemplate
