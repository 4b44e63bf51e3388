/-
TreeTemplate.Markup.Html — trees as HTML text (specification §11).

* `escape` — a text in which `&`, `<` and `>` are written as references;
  between quotes also the two quotes.
* `Node.toHtml`, `toHtml` (`to_html`) — a node, and a row of nodes. Directly
  inside `script` and `style` text is written as it is.
* `Node.withoutSpace` (`strip_whitespace`) — a tree without the texts that are
  white space only, except below elements in which white space matters.
-/
import TreeTemplate.Markup.Node
import TreeTemplate.Markup.Vocabulary
import TreeTemplate.Text.Blank

namespace TreeTemplate

/-! ## 1. Escaping -/

/-- A code point in text. -/
def escapeInText : CodePoint → Text
  | .scalar '&' => "&amp;"
  | .scalar '<' => "&lt;"
  | .scalar '>' => "&gt;"
  | c => [c]

/-- A code point in the value of an attribute. -/
def escapeInValue : CodePoint → Text
  | .scalar '"' => "&quot;"
  | .scalar '\'' => "&#x27;"
  | c => escapeInText c

/-- A text outside of tags. -/
def escapeText (t : Text) : Text := t.flatMap escapeInText

/-- The value of an attribute, between double quotes. -/
def escapeValue (t : Text) : Text := t.flatMap escapeInValue

/-! ## 2. Writing -/

/-- Attributes, each after a space. -/
def attrsHtml : List (Text × Text) → Text
  | [] => []
  | (name, value) :: rest =>
    .scalar ' ' :: name ++ ("=\"" : Text) ++ escapeValue value ++ .scalar '"' :: attrsHtml rest

/-- The start tag of an element. -/
def startTagHtml (tag : Text) (attrs : List (Text × Text)) : Text :=
  .scalar '<' :: tag ++ attrsHtml attrs ++ [.scalar '>']

/-- The end tag of an element. -/
def endTagHtml (tag : Text) : Text := ("</" : Text) ++ tag ++ [.scalar '>']

namespace Node

mutual

/-- The HTML of a node, for one inside raw text or not. -/
def htmlIn (raw : Bool) : Node → Text
  | mk (.text content) _ _ => if raw then content else escapeText content
  | mk (.comment content) _ _ => ("<!--" : Text) ++ content ++ ("-->" : Text)
  | mk (.doctype content) _ _ => ("<!DOCTYPE " : Text) ++ content ++ [.scalar '>']
  | mk .fragment _ children => htmlOfAll raw children
  | mk (.element tag) attrs children =>
    if isVoid tag then startTagHtml tag attrs
    else startTagHtml tag attrs ++ htmlOfAll (isRawText tag) children ++ endTagHtml tag

/-- The HTML of a row of nodes, one after another. -/
def htmlOfAll (raw : Bool) : List Node → Text
  | [] => []
  | node :: rest => htmlIn raw node ++ htmlOfAll raw rest

end

/-- The HTML of a node. -/
def toHtml (node : Node) : Text := htmlIn false node

/-! ## 3. White space -/

/-- Whether the node is a text of white space only. -/
def isBlankText (node : Node) : Bool :=
  match node.label with
  | .text content => content.isBlank
  | _ => false

mutual

/-- The tree without the texts that are white space only. -/
def withoutSpace : Node → Node
  | mk label attrs children =>
    if keepsSpace (mk label attrs children).tag then mk label attrs children
    else mk label attrs (withoutSpaceAll children)

/-- A row of nodes without the texts that are white space only. -/
def withoutSpaceAll : List Node → List Node
  | [] => []
  | node :: rest =>
    if node.isBlankText then withoutSpaceAll rest
    else withoutSpace node :: withoutSpaceAll rest

end

end Node

/-- The HTML of a row of nodes. -/
def toHtml (nodes : List Node) : Text := Node.htmlOfAll false nodes

end TreeTemplate
