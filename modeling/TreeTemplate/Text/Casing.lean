/-
TreeTemplate.Text.Casing — small letters for capital ones.

* `CodePoint.lower` — the small form of one code point, where the text
  around it does not matter.
* `Text.lower` — the small form of a text. Two letters need more than
  `CodePoint.lower`: the dotted capital I becomes an `i` and a combining
  dot, and a capital sigma at the end of a word becomes the final small
  sigma.
-/
import TreeTemplate.Text.CodePoint
import TreeTemplate.Text.CasingTable

namespace TreeTemplate

namespace CodePoint

/-- How far the small form of the code point with this number lies from it. -/
def lowerShift (n : Nat) : Int :=
  if n < 0x80 then if 65 ≤ n ∧ n ≤ 90 then 32 else 0
  else match Casing.adjacentRows.find? fun (first, last, _) => first ≤ n && n ≤ last with
    | some (_, _, shift) => shift
    | none =>
      match Casing.alternatingRows.find? fun (first, last, _) =>
          first ≤ n && n ≤ last && (n - first) % 2 == 0 with
      | some (_, _, shift) => shift
      | none => 0

/-- The small form of a code point that stands alone. -/
def lower (c : CodePoint) : CodePoint :=
  let shift := lowerShift c.value
  if shift = 0 then c else ofNat (c.value + shift).toNat

end CodePoint

namespace Text

/-- Whether the first code point that a word does not run through has a
case. -/
def meetsCased : Text → Bool
  | [] => false
  | c :: rest => if c.inRanges Casing.caseless then meetsCased rest else c.inRanges Casing.cased

/-- The small form of a code point between the text before it, read
backwards, and the text after it. -/
def lowerBetween (before : Text) (c : CodePoint) (after : Text) : Text :=
  if c = .scalar '\u0130' then [.scalar 'i', .scalar '\u0307']
  else if c = .scalar '\u03A3' then
    if meetsCased before && !meetsCased after then [.scalar '\u03C2'] else [.scalar '\u03C3']
  else [c.lower]

/-- The small form of a text that follows another, given backwards. -/
def lowerAfter (before : Text) : Text → Text
  | [] => []
  | c :: rest => lowerBetween before c rest ++ lowerAfter (c :: before) rest

/-- The text in small letters. -/
def lower (t : Text) : Text := lowerAfter [] t

end Text

end TreeTemplate
