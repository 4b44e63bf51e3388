/-
TreeTemplate.Web.IpAddress — hosts by number.

* `IpAddress.isFour` — the spelling of an address of four bytes.
* `IpAddress.isSix` — the spelling of an address of sixteen bytes.
* `IpAddress.looksLikeFour` — four rows of digits with something between
  them: such a host is taken for an address of four bytes or for nothing.
-/
import TreeTemplate.Text.Digit

namespace TreeTemplate.IpAddress

/-! ## 1. Four bytes -/

/-- Whether the text is a number below 256 without leading zeros. -/
def isByte (t : Text) : Bool :=
  !t.isEmpty && t.all CodePoint.isAsciiDigit && t.length ≤ 3
    && (t.length = 1 || t.head? ≠ some (.scalar '0'))
    && numberOf 10 (t.map (·.value - 48)) < 256

/-- Whether the text is four numbers of a byte with dots between them. -/
def isFour (t : Text) : Bool :=
  let parts := t.splitOn (.scalar '.')
  parts.length = 4 && parts.all isByte

/-- How far a text has come on its way through four rows of digits: an even
number asks for the first digit of a row, an odd one is inside a row. -/
def nextStates (c : CodePoint) (state : Nat) : List Nat :=
  if state % 2 = 0 then if c.isAsciiDigit then [state + 1] else []
  else (if c.isAsciiDigit then [state] else []) ++ if state < 7 then [state + 1] else []

/-- Whether the text is four rows of digits with any one code point between
each two. -/
def looksLikeFour (t : Text) : Bool :=
  (t.foldl (fun states c => (states.flatMap (nextStates c)).eraseDups) [0]).contains 7

/-! ## 2. Sixteen bytes -/

/-- Whether the text is a hexadecimal number of at most four digits. -/
def isGroup (t : Text) : Bool :=
  !t.isEmpty && t.length ≤ 4 && t.all fun c => c.hexValue?.isSome

/-- The groups of an address: an address of four bytes at the end counts
for two. -/
def groupsOf? (t : Text) : Option (List Text) :=
  let parts := t.splitOn (.scalar ':')
  match parts.getLast? with
  | some last =>
    if last.holds (.scalar '.') then
      if isFour last ∧ 3 ≤ parts.length then some (parts.dropLast ++ ([("0" : Text), "0"])) else none
    else if 3 ≤ parts.length then some parts else none
  | none => none

/-- The places of empty groups, but for the first and the last group. -/
def gaps (groups : List Text) : List Nat :=
  (List.range groups.length).filter fun i =>
    0 < i && i + 1 < groups.length && groups[i]? = some []

/-- Whether groups before or after a gap are good. An empty group beside
the gap alone makes up its second colon at an end of the address. -/
def isSide (groups : List Text) (endGroup : Option Text) : Bool :=
  if endGroup = some [] then groups.length = 1 else groups.all isGroup

/-- How many groups stand before or after a gap. -/
def sideLength (groups : List Text) : Nat := if groups = [[]] then 0 else groups.length

/-- Whether groups make up an address: eight, or fewer and one gap. -/
def areGroups (groups : List Text) : Bool :=
  groups.length ≤ 9 &&
    match gaps groups with
    | [] => groups.length = 8 && groups.all isGroup
    | [gap] =>
      let before := groups.take gap
      let after := groups.drop (gap + 1)
      isSide before before.head? && isSide after after.getLast?
        && sideLength before + sideLength after < 8
    | _ => false

/-- Whether the text spells an address of sixteen bytes. A percent sign
may lead to the name of a zone. -/
def isSix (t : Text) : Bool :=
  let (address, zone) := Text.cut (.scalar '%') t
  (match zone with
    | none => true
    | some zone => !zone.isEmpty && !zone.holds (.scalar '%'))
  && match groupsOf? address with
    | some groups => areGroups groups
    | none => false

end TreeTemplate.IpAddress
