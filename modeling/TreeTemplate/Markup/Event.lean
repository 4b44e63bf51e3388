/-
TreeTemplate.Markup.Event — markup as a row of events.

Reading markup from left to right meets start tags, end tags, text,
comments and document types. The row of these events says all that a tree
is built from.
-/
import TreeTemplate.Text.CodePoint

namespace TreeTemplate

/-- What reading markup meets. Tags are in small letters. -/
inductive Event where
  /-- A start tag; an attribute without `=` has no value. A tag that
  closes itself is its own end tag. -/
  | startTag (tag : Text) (attrs : List (Text × Option Text)) (closesItself : Bool)
  | endTag (tag : Text)
  | text (content : Text)
  | comment (content : Text)
  | doctype (content : Text)
deriving DecidableEq

end TreeTemplate
