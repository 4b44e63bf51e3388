/-
TreeTemplate.Web.Label — the parts of domain names.

The name of a host is a row of labels with dots between them. A label in
letters of any script is composed text, does not begin with a mark, and
has hyphens only inside, and not in the third and fourth place. A few
letters need the right neighbours, and letters written from right to left
need others of their kind around them.

* `LabelFault` — what is wrong with a label.
* `checkLabel` — whether a text can be a label.
-/
import TreeTemplate.Text.Composition
import TreeTemplate.Web.LabelTable

namespace TreeTemplate

/-- What is wrong with a label. -/
inductive LabelFault where
  | misshapen
  | badLetter
  /-- A letter stands among the wrong neighbours. -/
  | badNeighbours
  /-- Letters are written in directions that do not go together. -/
  | badDirection
deriving DecidableEq

namespace Label

/-! ## 1. Letters -/

/-- Whether the code point may stand anywhere. -/
def isLetter (c : CodePoint) : Bool :=
  (LabelTable.letters.any fun (first, last, step) =>
    first ≤ c.value && c.value ≤ last && (c.value - first) % step == 0)
  || c.inRanges LabelTable.undirected

/-- The class of the marks that leave out a vowel. -/
def viramaClass : Nat := 9

def isVirama (c : CodePoint) : Bool := c.combiningClass == viramaClass

/-- Whether the first letter that is no mark joins a neighbour; `sides` are
the letters that do. -/
def meetsJoined (sides : List (Nat × Nat)) : Text → Bool
  | [] => false
  | c :: rest =>
    if c.isNonspacing then meetsJoined sides rest
    else c.inRanges sides || c.inRanges LabelTable.joinedBoth

/-- Whether a code point that needs the right neighbours has them; none for
one that does not stand in labels. `before` is read backwards. -/
def hasNeighbours? (label before : Text) (c : CodePoint) (after : Text) : Option Bool :=
  let n := c.value
  let followsVirama := (before.head?.map isVirama).getD false
  if n = 0x200C then
    some (followsVirama ||
      (meetsJoined LabelTable.joinedAfter before && meetsJoined LabelTable.joinedBefore after))
  else if n = 0x200D then some followsVirama
  else if n = 0xB7 then
    some (before.head? = some (.scalar 'l') && after.head? = some (.scalar 'l'))
  else if n = 0x375 then some ((after.head?.map (·.inRanges LabelTable.greek)).getD false)
  else if n = 0x5F3 ∨ n = 0x5F4 then
    some ((before.head?.map (·.inRanges LabelTable.hebrew)).getD false)
  else if n = 0x30FB then some (label.any (·.inRanges LabelTable.japanese))
  else if 0x660 ≤ n ∧ n ≤ 0x669 then some (!label.any (·.inRanges [(0x6F0, 0x6F9)]))
  else if 0x6F0 ≤ n ∧ n ≤ 0x6F9 then some (!label.any (·.inRanges [(0x660, 0x669)]))
  else none

/-- Checks the code points of a label from a place on. -/
def checkLetters (label before : Text) : Text → Except LabelFault Unit
  | [] => .ok ()
  | c :: rest =>
    if isLetter c then checkLetters label (c :: before) rest
    else match hasNeighbours? label before c rest with
      | some true => checkLetters label (c :: before) rest
      | some false => .error .badNeighbours
      | none => .error .badLetter

/-! ## 2. Directions -/

/-- The direction in which a letter is written. -/
inductive Direction where
  | leftToRight
  | rightToLeft
  /-- A digit of Arabic. -/
  | arabicNumber
  | europeanNumber
  /-- A mark, which goes where the letter before it goes. -/
  | mark
  | neutral
deriving DecidableEq

/-- The direction of a letter of a label. -/
def direction (c : CodePoint) : Direction :=
  if c.inRanges LabelTable.rightToLeft || c.inRanges LabelTable.arabicLetters then .rightToLeft
  else if c.inRanges LabelTable.arabicNumbers then .arabicNumber
  else if c.inRanges LabelTable.europeanNumbers then .europeanNumber
  else if c.inRanges LabelTable.directionless then .neutral
  else if c.isNonspacing && !c.inRanges LabelTable.directedMarks then .mark
  else .leftToRight

/-- The direction of the last letter that is no mark. -/
def lastDirection? (directions : List Direction) : Option Direction :=
  (directions.reverse.dropWhile (· = .mark)).head?

/-- Whether directions go together in a label that is written from right to
left. -/
def goRightToLeft (directions : List Direction) : Bool :=
  !directions.contains .leftToRight
    && !(directions.contains .arabicNumber && directions.contains .europeanNumber)
    && (match lastDirection? directions with
      | some .rightToLeft | some .arabicNumber | some .europeanNumber => true
      | _ => false)

/-- Whether directions go together in a label that is written from left to
right. -/
def goLeftToRight (directions : List Direction) : Bool :=
  !directions.contains .rightToLeft && !directions.contains .arabicNumber
    && (match lastDirection? directions with
      | some .leftToRight | some .europeanNumber => true
      | _ => false)

/-- Whether directions go together. Only a label with letters or digits
from right to left has a rule to follow. -/
def goTogether (directions : List Direction) : Bool :=
  if directions.contains .rightToLeft || directions.contains .arabicNumber then
    match directions.head? with
    | some .rightToLeft => goRightToLeft directions
    | some .leftToRight => goLeftToRight directions
    | _ => false
  else true

/-! ## 3. Labels -/

def hyphen : CodePoint := .scalar '-'

/-- Whether hyphens stand where they may. -/
def hasGoodHyphens (t : Text) : Bool :=
  (t.drop 2).take 2 ≠ [hyphen, hyphen] && t.head? ≠ some hyphen && t.getLast? ≠ some hyphen

end Label

/-- Checks that a text can be a label. -/
def checkLabel (t : Text) : Except LabelFault Unit :=
  if t.isEmpty || !t.isComposed || !Label.hasGoodHyphens t
      || (t.head?.map CodePoint.isMark).getD false then .error .misshapen
  else
    match Label.checkLetters t [] t with
    | .error fault => .error fault
    | .ok () =>
      if !t.any (·.inRanges LabelTable.undirected) && Label.goTogether (t.map Label.direction) then
        .ok ()
      else .error .badDirection

end TreeTemplate
