/-
TreeTemplate.Markup.Vocabulary — what is special about some tags.

* `isVoid` — elements that never have children and no end tag.
* `isRawText` — elements whose content is text without any markup.
* `keepsSpace` — elements in which white space matters.
* `closedBy` — whether an open element ends where a start tag stands.
-/
import TreeTemplate.Text.CodePoint

namespace TreeTemplate

/-- The texts of some strings. -/
def textsOf (strings : List String) : List Text := strings.map Text.ofString

/-- Tags of elements without content. -/
def voidTags : List Text :=
  textsOf ["area", "base", "br", "col", "embed", "hr", "img", "input", "link", "meta",
    "source", "track", "wbr"]

def isVoid (tag : Text) : Bool := voidTags.contains tag

/-- Tags of elements whose content is written and read as it stands. -/
def rawTextTags : List Text := textsOf ["script", "style"]

def isRawText (tag : Text) : Bool := rawTextTags.contains tag

/-- Tags of elements in which white space matters. -/
def spaceKeepingTags : List Text := textsOf ["pre", "textarea", "script", "style"]

def keepsSpace (tag : Text) : Bool := spaceKeepingTags.contains tag

/-- Tags that begin a block, and so end a paragraph. -/
def blockTags : List Text :=
  textsOf ["address", "article", "aside", "blockquote", "div", "dl", "fieldset", "footer",
    "form", "h1", "h2", "h3", "h4", "h5", "h6", "header", "hr", "main", "nav", "ol", "p",
    "pre", "section", "table", "ul"]

/-- For each tag with an optional end tag, the start tags that stand for
its end. -/
def impliedEnds : List (Text × List Text) :=
  [("p", blockTags), ("li", textsOf ["li"]), ("dt", textsOf ["dt", "dd"]),
    ("dd", textsOf ["dt", "dd"]), ("option", textsOf ["option"]), ("tr", textsOf ["tr"]),
    ("td", textsOf ["td", "th", "tr"]), ("th", textsOf ["td", "th", "tr"])]

/-- Whether an open element ends where a start tag stands. -/
def closedBy (openTag startTag : Text) : Bool :=
  match impliedEnds.find? (fun entry => entry.1 = openTag) with
  | some (_, closers) => closers.contains startTag
  | none => false

end TreeTemplate
