/-
TreeTemplate.Text.Unspelled — texts that have no bytes.

A lone surrogate has no bytes in any encoding, and a letter beyond ASCII
has none in ASCII.

* `Unspelled` — the first row of code points that have no bytes, and
  `Unspelled.message`, the words for it.
* `Encoding.unspelled?` — that row in a text, if there is one.
-/
import TreeTemplate.Text.Quoted

namespace TreeTemplate

/-- A way to spell texts as bytes. -/
inductive Encoding where
  | ascii
  | utf8
  /-- The names of files: those whose bytes are no UTF-8 are shown with lone
  surrogates from U+DC80 to U+DCFF, which stand for one byte each. -/
  | fileName
deriving DecidableEq

/-- Code points in a row that have no bytes: where they begin, how many
there are, and the first of them. -/
structure Unspelled where
  encoding : Encoding
  offset : Nat
  count : Nat
  first : CodePoint
deriving DecidableEq

namespace Encoding

/-- Whether all encodings but that of ASCII have bytes for a code point. -/
def isCharacter : CodePoint → Bool
  | .scalar _ => true
  | .surrogate _ => false

/-- Whether a code point has bytes. -/
def spells : Encoding → CodePoint → Bool
  | ascii, c => c.value < 0x80
  | utf8, c => isCharacter c
  | fileName, c => isCharacter c || (0xDC80 ≤ c.value && c.value ≤ 0xDCFF)

/-- Whether a code point ends a row of those without bytes. -/
def endsRow : Encoding → CodePoint → Bool
  | ascii, c => spells ascii c
  | _, c => isCharacter c

/-- The first row of code points without bytes, in a text at a position. -/
def unspelledFrom? (encoding : Encoding) : Nat → Text → Option Unspelled
  | _, [] => none
  | offset, c :: rest =>
    if encoding.spells c then unspelledFrom? encoding (offset + 1) rest
    else
      let others := rest.takeWhile fun c => !encoding.endsRow c
      some ⟨encoding, offset, others.length + 1, c⟩

/-- The first row of code points without bytes. -/
def unspelled? (encoding : Encoding) (t : Text) : Option Unspelled := encoding.unspelledFrom? 0 t

/-- The name of an encoding. -/
def name : Encoding → Text
  | ascii => "ascii"
  | _ => "utf-8"

/-- Why code points have no bytes. -/
def reason : Encoding → Text
  | ascii => "ordinal not in range(128)"
  | _ => "surrogates not allowed"

end Encoding

/-- The words for code points without bytes. -/
def Unspelled.message (unspelled : Unspelled) : Text :=
  let what : Text :=
    if unspelled.count = 1 then
      ("character '" : Text) ++ Text.numberEscape unspelled.first ++ ("' in position " : Text)
        ++ Text.ofNat unspelled.offset
    else
      ("characters in position " : Text) ++ Text.ofNat unspelled.offset ++ [.scalar '-']
        ++ Text.ofNat (unspelled.offset + unspelled.count - 1)
  [.scalar '\''] ++ unspelled.encoding.name ++ ("' codec can't encode " : Text) ++ what
    ++ (": " : Text) ++ unspelled.encoding.reason

end TreeTemplate
