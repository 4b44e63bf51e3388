/-
TreeTemplate.Markup.Tree — the tree of a row of events (what `parse_markup`
of specification §11 builds while it reads).

The events are taken one by one. The elements that are still open form a
stack; each holds what it contains so far.

* `OpenTree` — a tree under construction.
* `OpenTree.take` — takes one event.
* `Node.ofEvents` — the finished tree, a fragment.

An element is closed by its end tag, which closes all elements inside it
as well; by a start tag that implies its end; or by the end of the events.
An end tag without an open element is passed over.
-/
import TreeTemplate.Markup.Event
import TreeTemplate.Markup.Node
import TreeTemplate.Markup.Vocabulary

namespace TreeTemplate

/-- An element that is still open, with its children so far, the latest
first. -/
structure OpenElement where
  tag : Text
  attrs : Table Text
  content : List Node
deriving DecidableEq

/-- The element as it is when it is closed. -/
def OpenElement.node (element : OpenElement) : Node :=
  .element element.tag element.attrs element.content.reverse

/-- Puts a node after the others, the latest first. Text after text
makes one text; empty text is nothing. -/
def attach (content : List Node) (node : Node) : List Node :=
  match node, content with
  | .mk (.text t) _ _, .mk (.text s) _ _ :: before => .text (s ++ t) :: before
  | node, content => node :: content

/-- A tree under construction: the open elements, the innermost first, and
the nodes outside of all elements, the latest first. -/
structure OpenTree where
  stack : List OpenElement
  outside : List Node

namespace OpenTree

/-- The tree before the first event. -/
def empty : OpenTree := ⟨[], []⟩

/-- Puts a node into the innermost open element. -/
def add (tree : OpenTree) (node : Node) : OpenTree :=
  match tree.stack with
  | [] => ⟨[], attach tree.outside node⟩
  | inner :: outer => ⟨⟨inner.tag, inner.attrs, attach inner.content node⟩ :: outer, tree.outside⟩

/-- Closes the innermost open element. -/
def closeInnermost (tree : OpenTree) : OpenTree :=
  match tree.stack with
  | [] => tree
  | inner :: outer => add ⟨outer, tree.outside⟩ inner.node

/-- Closes the given number of elements, from the innermost on. -/
def close : Nat → OpenTree → OpenTree
  | 0, tree => tree
  | n + 1, tree => close n tree.closeInnermost

/-- Closes the elements whose end a start tag implies. -/
def closeImplied (tree : OpenTree) (tag : Text) : OpenTree :=
  close (tree.stack.takeWhile fun element => closedBy element.tag tag).length tree

/-- Opens an element, or adds one that has no content. -/
def openTag (tree : OpenTree) (tag : Text) (attrs : List (Text × Option Text)) : OpenTree :=
  let tree := tree.closeImplied tag
  let element : OpenElement :=
    ⟨tag, Table.firstOfEach (attrs.map fun (name, value) => (name, value.getD [])), []⟩
  if isVoid tag then tree.add element.node else ⟨element :: tree.stack, tree.outside⟩

/-- Closes the innermost open element with the tag and all inside it. -/
def closeTag (tree : OpenTree) (tag : Text) : OpenTree :=
  match tree.stack.findIdx? fun element => element.tag = tag with
  | some i => close (i + 1) tree
  | none => tree

/-- Takes one event. -/
def take (tree : OpenTree) : Event → OpenTree
  | .startTag tag attrs closesItself =>
    let tree := tree.openTag tag attrs
    if closesItself && !isVoid tag then tree.closeTag tag else tree
  | .endTag tag => tree.closeTag tag
  | .text [] => tree
  | .text content => tree.add (.text content)
  | .comment content => tree.add (.comment content)
  | .doctype content => tree.add (.doctype content)

/-- Closes all elements. -/
def finish (tree : OpenTree) : Node :=
  .fragment (close tree.stack.length tree).outside.reverse

end OpenTree

/-- The tree of a row of events. -/
def Node.ofEvents (events : List Event) : Node := (events.foldl OpenTree.take .empty).finish

end TreeTemplate
