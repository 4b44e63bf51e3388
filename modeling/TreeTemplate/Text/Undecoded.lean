/-
TreeTemplate.Text.Undecoded — bytes that are no text.

Files hold bytes, and not all bytes are UTF-8. What is wrong with them is told
of the first row of bytes that begins a code point and does not end it, or that
begins none.

* `Undecoded` — such a row, and `Undecoded.message`, the words for it.
* `Text.undecoded?` — the first such row in bytes, if there is one.
* `Text.decoded` — the text of bytes, or the row that keeps them from having
  one.
-/
import TreeTemplate.Text.Bytes
import TreeTemplate.Text.Quoted

namespace TreeTemplate

/-- Why bytes are no code point. -/
inductive BadBytes where
  /-- The first begins none. -/
  | start
  /-- One of those that follow cannot follow. -/
  | continuation
  /-- They end before the code point does. -/
  | ending
deriving DecidableEq

/-- The words for a cause. -/
def BadBytes.reason : BadBytes → Text
  | start => "invalid start byte"
  | continuation => "invalid continuation byte"
  | ending => "unexpected end of data"

/-- Bytes in a row that are no UTF-8: where they begin, how many there are,
the first of them, and what is wrong. -/
structure Undecoded where
  offset : Nat
  count : Nat
  first : Nat
  cause : BadBytes
deriving DecidableEq

/-- The words for bytes that are no UTF-8. -/
def Undecoded.message (undecoded : Undecoded) : Text :=
  let what : Text :=
    if undecoded.count = 1 then
      ("byte 0x" : Text) ++ Text.hex 2 undecoded.first ++ (" in position " : Text)
        ++ Text.ofNat undecoded.offset
    else
      ("bytes in position " : Text) ++ Text.ofNat undecoded.offset ++ [.scalar '-']
        ++ Text.ofNat (undecoded.offset + undecoded.count - 1)
  ("'utf-8' codec can't decode " : Text) ++ what ++ (": " : Text) ++ undecoded.cause.reason

namespace Text

/-- What is wrong with the code point that a byte begins: the cause, and how
many bytes it is told of. -/
def badBytes? (b : Nat) (rest : List Nat) : Option (BadBytes × Nat) :=
  match firstByte? b with
  | none => some (.start, 1)
  | some (count, least, greatest, n) =>
    match followingBytes count least greatest n rest with
    | (some _, _) => none
    | (none, []) => some (.ending, rest.length + 1)
    | (none, after) => some (.continuation, rest.length - after.length + 1)

/-- The first row of bytes that are no UTF-8, in bytes at a position of which
some belong to a code point that has been read. -/
def undecodedFrom? : Nat → Nat → List Nat → Option Undecoded
  | _, _, [] => none
  | offset, known + 1, _ :: rest => undecodedFrom? (offset + 1) known rest
  | offset, 0, b :: rest =>
    match badBytes? b rest with
    | some (cause, count) => some ⟨offset, count, b, cause⟩
    | none =>
      undecodedFrom? (offset + 1) (rest.length - (firstCodePoint b rest).2.length) rest

/-- The first row of bytes that are no UTF-8. -/
def undecoded? (bytes : List Nat) : Option Undecoded := undecodedFrom? 0 0 bytes

/-- The text of bytes in UTF-8. -/
def decoded (bytes : List Nat) : Except Undecoded Text :=
  match undecoded? bytes with
  | some undecoded => .error undecoded
  | none => .ok (ofUtf8 bytes)

end Text

end TreeTemplate
