/-
TreeTemplate.Proofs.Markup.Outline — trees up to what escaping hides.

The outline of a tree is the tree without the contents of its texts and
without the values of its attributes; texts directly inside `script` and
`style`, which are written as they stand, belong to it. Everything that
escaping lets through is in the outline: it has all the angle brackets of
the HTML.

* `Node.outlineIn`, `outline` — the outline.
* `outline_append`, `outline_element` — row by row, element by element.
* `count_toHtml_eq` — the angle brackets of the HTML.
-/
import TreeTemplate.Proofs.Markup.Escape

namespace TreeTemplate

/-! ## 1. Outlines -/

/-- Attributes without their values. -/
def blankValues (attrs : List (Text × Text)) : List (Text × Text) :=
  attrs.map fun attr => (attr.1, [])

namespace Node

mutual

/-- The outline of a node, for one inside raw text or not. -/
def outlineIn (raw : Bool) : Node → Node
  | mk (.text content) attrs children =>
    mk (.text (if raw then content else [])) (blankValues attrs) (outlineOfAll raw children)
  | mk (.element tag) attrs children =>
    mk (.element tag) (blankValues attrs) (outlineOfAll (isRawText tag) children)
  | mk label attrs children => mk label (blankValues attrs) (outlineOfAll raw children)

/-- The outlines of a row of nodes. -/
def outlineOfAll (raw : Bool) : List Node → List Node
  | [] => []
  | node :: rest => outlineIn raw node :: outlineOfAll raw rest

end

theorem outlineOfAll_append (raw : Bool) (nodes others : List Node) :
    outlineOfAll raw (nodes ++ others) = outlineOfAll raw nodes ++ outlineOfAll raw others := by
  induction nodes with
  | nil => rfl
  | cons node rest ih => exact congrArg (outlineIn raw node :: ·) ih

end Node

/-- The outline of a row of nodes. -/
def outline (nodes : List Node) : List Node := Node.outlineOfAll false nodes

theorem outline_append (nodes others : List Node) :
    outline (nodes ++ others) = outline nodes ++ outline others :=
  Node.outlineOfAll_append false nodes others

/-- The outline of an element is made of its tag, the names of its attributes
and the outline of its content. -/
theorem outline_element {tag : Text} {attrs attrs' : Table Text} {nodes nodes' : List Node}
    (hNames : attrs.names = attrs'.names)
    (hContent : Node.outlineOfAll (isRawText tag) nodes
      = Node.outlineOfAll (isRawText tag) nodes') :
    outline [.element tag attrs nodes] = outline [.element tag attrs' nodes'] := by
  have hBlank (attrs : Table Text) :
      blankValues attrs = attrs.names.map fun name => (name, []) := by
    rw [Table.names, List.map_map]
    rfl
  show [Node.mk (.element tag) (blankValues attrs) (Node.outlineOfAll (isRawText tag) nodes)]
    = [Node.mk (.element tag) (blankValues attrs') (Node.outlineOfAll (isRawText tag) nodes')]
  rw [hBlank, hBlank, hNames, hContent]

/-! ## 2. Angle brackets -/

section

variable {c : CodePoint}

theorem count_htmlOfAll (raw : Bool) {nodes : List Node}
    (h : ∀ node ∈ nodes, ∀ raw, ((node.outlineIn raw).htmlIn raw).count c
      = (node.htmlIn raw).count c) :
    (Node.htmlOfAll raw (Node.outlineOfAll raw nodes)).count c
      = (Node.htmlOfAll raw nodes).count c := by
  induction nodes with
  | nil => rfl
  | cons node rest ih =>
    obtain ⟨hNode, hRest⟩ := List.forall_mem_cons.1 h
    rw [Node.outlineOfAll, Node.htmlOfAll, Node.htmlOfAll, List.count_append, List.count_append,
      hNode, ih hRest]

variable (hc : c = .scalar '<' ∨ c = .scalar '>')

include hc

theorem count_escapeText (t : Text) : (escapeText t).count c = 0 := by
  obtain ⟨hLess, hMore⟩ := angle_not_mem_escapeText t
  rcases hc with rfl | rfl
  · exact List.count_eq_zero.2 hLess
  · exact List.count_eq_zero.2 hMore

theorem count_escapeValue (t : Text) : (escapeValue t).count c = 0 := by
  obtain ⟨hLess, hMore⟩ := angle_not_mem_escapeValue t
  rcases hc with rfl | rfl
  · exact List.count_eq_zero.2 hLess
  · exact List.count_eq_zero.2 hMore

theorem count_attrsHtml (attrs : List (Text × Text)) :
    (attrsHtml (blankValues attrs)).count c = (attrsHtml attrs).count c := by
  induction attrs with
  | nil => rfl
  | cons attr rest ih =>
    obtain ⟨name, value⟩ := attr
    rw [blankValues] at ih
    rw [blankValues, List.map_cons, attrsHtml, attrsHtml]
    simp only [List.count_append, List.count_cons, count_escapeValue hc, ih]

theorem count_startTagHtml (tag : Text) (attrs : List (Text × Text)) :
    (startTagHtml tag (blankValues attrs)).count c = (startTagHtml tag attrs).count c := by
  simp only [startTagHtml, List.cons_append, List.count_cons, List.count_append,
    count_attrsHtml hc]

/-- The HTML of the outline of a node has the angle brackets of the HTML of
the node. -/
theorem count_htmlIn (raw : Bool) (node : Node) :
    ((node.outlineIn raw).htmlIn raw).count c = (node.htmlIn raw).count c := by
  induction node using Node.induct generalizing raw with
  | step label attrs children ih =>
    have hChildren (raw : Bool) := count_htmlOfAll raw fun child hChild raw => ih child hChild raw
    cases label with
    | element tag =>
      rw [Node.outlineIn, Node.htmlIn, Node.htmlIn]
      split
      · exact count_startTagHtml hc tag attrs
      · rw [List.count_append, List.count_append, List.count_append, List.count_append,
          count_startTagHtml hc, hChildren]
    | text content =>
      rw [Node.outlineIn, Node.htmlIn, Node.htmlIn]
      cases raw with
      | true => rfl
      | false => exact (count_escapeText hc []).trans (count_escapeText hc content).symm
    | comment content => rfl
    | doctype content => rfl
    | fragment => exact hChildren raw

/-- Nodes of one outline have equally many angle brackets in their HTML. -/
theorem count_toHtml_eq {nodes nodes' : List Node} (h : outline nodes = outline nodes') :
    (toHtml nodes).count c = (toHtml nodes').count c := by
  have hCount (nodes : List Node) :
      (Node.htmlOfAll false (outline nodes)).count c = (toHtml nodes).count c :=
    count_htmlOfAll false fun node _ raw => count_htmlIn hc raw node
  rw [← hCount, h, hCount]

end

end TreeTemplate
