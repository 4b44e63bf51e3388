/-
TreeTemplate.Text.CodePoint — what a text is made of.

A text is a list of code points. A code point is a character or a
surrogate that stands alone: the data format can spell such a surrogate
by an escape, so texts can hold it, although no file can.

* `CodePoint.value` — the number of a code point, and `ofNat?` back.
* `Text.ofString`, `Text.toString?` — between texts and strings; only a
  text with a lone surrogate has no string.
* `Text.byteLength` — the size of a text in a file.
* `Text.splitOn`, `Text.cut`, `Text.afterPrefix?` — the ways in which
  the rest of the library takes a text apart.
-/
namespace TreeTemplate

/-- A Unicode code point: a character, or a lone surrogate given by its
distance from U+D800. -/
inductive CodePoint where
  | scalar (c : Char)
  | surrogate (offset : Fin 2048)
deriving DecidableEq, Inhabited

namespace CodePoint

instance : Coe Char CodePoint := ⟨scalar⟩

/-- The number of a code point. -/
def value : CodePoint → Nat
  | scalar c => c.toNat
  | surrogate k => 0xD800 + k

/-- The code point with the given number, below U+110000. -/
def ofNat? (n : Nat) : Option CodePoint :=
  if h : n.isValidChar then some (scalar (Char.ofNatAux n h))
  else if h : 0xD800 ≤ n ∧ n < 0xE000 then some (surrogate ⟨n - 0xD800, by omega⟩)
  else none

/-- The code point with the given number, the replacement character for
a number that has none. -/
def ofNat (n : Nat) : CodePoint := (ofNat? n).getD (scalar '\uFFFD')

/-- Whether the number of the code point lies in one of the ranges. -/
def inRanges (ranges : List (Nat × Nat)) (c : CodePoint) : Bool :=
  ranges.any fun r => r.1 ≤ c.value && c.value ≤ r.2

/-- Whether the code point is a letter from `A` to `Z` or `a` to `z`. -/
def isAsciiLetter (c : CodePoint) : Bool := c.inRanges [(65, 90), (97, 122)]

end CodePoint

/-- A text, as the list of its code points. -/
abbrev Text := List CodePoint

instance : LawfulBEq Text := inferInstance

namespace Text

/-- The text of a string. -/
def ofString (s : String) : Text := s.toList.map CodePoint.scalar

instance : Coe String Text := ⟨ofString⟩

/-- The string of a text, if it holds no lone surrogate. -/
def toString? (t : Text) : Option String :=
  (t.mapM fun c => match c with
    | CodePoint.scalar c => some c
    | CodePoint.surrogate _ => none).map String.ofList

/-- The string of a text, with U+FFFD for each lone surrogate. -/
def toStringLossy (t : Text) : String :=
  String.ofList (t.map fun c => match c with
    | CodePoint.scalar c => c
    | CodePoint.surrogate _ => '\uFFFD')

/-! ## 1. Numbers in decimal -/

/-- The digit for a number below ten. -/
def digit (n : Nat) : CodePoint := .scalar (Char.ofNat (48 + n))

/-- The decimal digits of a number, without leading zeros. -/
def ofNat (n : Nat) : Text :=
  if n < 10 then [digit n] else ofNat (n / 10) ++ [digit (n % 10)]

/-- The decimal digits of an integer, after a `-` if it is negative. -/
def ofInt : Int → Text
  | .ofNat n => ofNat n
  | .negSucc n => .scalar '-' :: ofNat (n + 1)

/-! ## 2. Taking a text apart -/

/-- The pieces between the separators: one more than there are separators. -/
def splitOn (sep : CodePoint) : Text → List Text
  | [] => [[]]
  | c :: rest =>
    if c = sep then [] :: splitOn sep rest
    else match splitOn sep rest with
      | [] => [[c]]
      | piece :: pieces => (c :: piece) :: pieces

/-- The part before the first separator, and the part after it if there
is one. -/
def cut (sep : CodePoint) : Text → Text × Option Text
  | [] => ([], none)
  | c :: rest =>
    if c = sep then ([], some rest)
    else let (before, after) := cut sep rest; (c :: before, after)

/-- What follows the given beginning, if the text begins so. -/
def afterPrefix? : Text → Text → Option Text
  | [], t => some t
  | _ :: _, [] => none
  | p :: ps, c :: cs => if p = c then afterPrefix? ps cs else none

/-- Whether the text begins with the given one. -/
def startsWith (t begin : Text) : Bool := (afterPrefix? begin t).isSome

/-- The texts one after another, with the separator between them. -/
def joined (sep : Text) : List Text → Text
  | [] => []
  | [t] => t
  | t :: rest => t ++ sep ++ joined sep rest

/-- How many bytes the text takes in UTF-8. -/
def byteLength (t : Text) : Nat :=
  t.foldl (fun n c => n + (if c.value < 0x80 then 1 else if c.value < 0x800 then 2
    else if c.value < 0x10000 then 3 else 4)) 0

/-- Whether the text holds the code point. -/
def holds (t : Text) (c : CodePoint) : Bool := t.any (· = c)

end Text

end TreeTemplate
