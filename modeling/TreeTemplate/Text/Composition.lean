/-
TreeTemplate.Text.Composition — one spelling for letters with marks.

The same letter with marks can be spelled as one code point, or as a
letter and marks after it. Composed text puts the marks in the order of
their classes and makes of a letter and its marks as few code points as
there are.

* `Text.decomposed` — letters and marks apart, marks in order.
* `Text.composed` — letters and marks together.
* `Text.isComposed` — whether a text is spelled so already.
-/
import TreeTemplate.Text.CompositionTable
import TreeTemplate.Text.Mark

namespace TreeTemplate

namespace Composition

/-! ## 1. Korean syllables

A syllable is a leading consonant, a vowel and perhaps a trailing
consonant; the numbers of the syllables follow from those of the parts. -/

def firstLeading : Nat := 0x1100
def firstVowel : Nat := 0x1161
def beforeTrailing : Nat := 0x11A7
def firstSyllable : Nat := 0xAC00
def leadingCount : Nat := 19
def vowelCount : Nat := 21
def trailingCount : Nat := 28

/-- The parts of a syllable. -/
def syllableParts? (n : Nat) : Option (List Nat) :=
  let index := n - firstSyllable
  if firstSyllable ≤ n ∧ index < leadingCount * vowelCount * trailingCount then
    let consonant := firstLeading + index / (vowelCount * trailingCount)
    let vowel := firstVowel + index / trailingCount % vowelCount
    let trailing := index % trailingCount
    some ([consonant, vowel] ++ if trailing = 0 then [] else [beforeTrailing + trailing])
  else none

/-- The syllable of two parts. -/
def syllable? (a b : Nat) : Option Nat :=
  if firstLeading ≤ a ∧ a < firstLeading + leadingCount ∧ firstVowel ≤ b
      ∧ b < firstVowel + vowelCount then
    some (firstSyllable + ((a - firstLeading) * vowelCount + (b - firstVowel)) * trailingCount)
  else if firstSyllable ≤ a ∧ a < firstSyllable + leadingCount * vowelCount * trailingCount
      ∧ (a - firstSyllable) % trailingCount = 0 ∧ beforeTrailing < b
      ∧ b < beforeTrailing + trailingCount then some (a + (b - beforeTrailing))
  else none

/-! ## 2. Two parts and one whole -/

/-- The whole of two parts. -/
def whole? (a b : Nat) : Option Nat :=
  (syllable? a b).or
    ((compositions.find? fun row => row.1 = a ∧ row.2.1 = b).map fun row => row.2.2)

/-- How often a whole can be taken apart. -/
def maxSteps : Nat := 4

/-- The parts of a code point that have no parts. -/
def partsOf : Nat → Nat → List Nat
  | 0, n => [n]
  | steps + 1, n =>
    match syllableParts? n with
    | some parts => parts
    | none =>
      match compositions.find? fun row => row.2.2 = n with
      | some (a, b, _) => partsOf steps a ++ partsOf steps b
      | none => [n]

/-- Puts a mark before the marks of greater classes that stand last. The
code points come latest first. -/
def insertMark (c : CodePoint) : List CodePoint → List CodePoint
  | [] => [c]
  | d :: rest =>
    if c.combiningClass ≠ 0 ∧ c.combiningClass < d.combiningClass then d :: insertMark c rest
    else c :: d :: rest

/-- Makes one code point of a letter and what can be joined to it. `apart`
are the marks after the letter that could not, latest first. -/
def joinTo (letter : CodePoint) (apart : List CodePoint) : List CodePoint → List CodePoint
  | [] => letter :: apart.reverse
  | c :: rest =>
    let free := match apart with
      | [] => true
      | d :: _ => d.combiningClass < c.combiningClass
    match if free then whole? letter.value c.value else none with
    | some n => joinTo (.ofNat n) apart rest
    | none =>
      if c.combiningClass = 0 then letter :: apart.reverse ++ joinTo c [] rest
      else joinTo letter (c :: apart) rest

/-- Begins with the first letter. -/
def joinAll : List CodePoint → List CodePoint
  | [] => []
  | c :: rest => if c.combiningClass = 0 then joinTo c [] rest else c :: joinAll rest

end Composition

namespace Text

/-- The text with letters and marks apart. -/
def decomposed (t : Text) : Text :=
  let parts := t.flatMap fun c => (Composition.partsOf Composition.maxSteps c.value).map .ofNat
  (parts.foldl (fun before c => Composition.insertMark c before) []).reverse

/-- The text with letters and marks together, for a text without code
points that composed text does without. -/
def composed (t : Text) : Text := Composition.joinAll t.decomposed

/-- Whether the text is composed. -/
def isComposed (t : Text) : Bool :=
  t.all (fun c => !c.inRanges Composition.neverComposed) && t.composed = t

end Text

end TreeTemplate
