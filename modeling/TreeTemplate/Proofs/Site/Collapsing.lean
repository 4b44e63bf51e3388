/-
TreeTemplate.Proofs.Site.Collapsing — trees without blank lines.

Blank lines are taken out of the HTML of a tree as if it were any text. But
tags and other constructs begin and end with what is not white space, so what
is left is the HTML of a tree again: of the one in which each text, comment,
document type and value has lost its own blank lines. And if the tree could
be read back, so can this one.

* `Node.collapsed`, `Node.collapsedAll` — the trees.
* `collapseBlankLines_htmlOfAll` — their HTML.
* `everywhere_collapsedAll` — they can be read back.
-/
import TreeTemplate.Proofs.Markup.RoundTrip
import TreeTemplate.Proofs.Markup.Stripping
import TreeTemplate.Proofs.Site.Respacing

namespace TreeTemplate

/-! ## 1. Trees -/

/-- The label without the blank lines in its text. -/
def Label.collapsed : Label → Label
  | .element tag => .element tag
  | .text content => .text (collapseBlankLines content)
  | .comment content => .comment (collapseBlankLines content)
  | .doctype content => .doctype (collapseBlankLines content)
  | .fragment => .fragment

/-- The attributes without the blank lines in their values. -/
def collapsedAttrs (attrs : List (Text × Text)) : List (Text × Text) :=
  attrs.map fun attr => (attr.1, collapseBlankLines attr.2)

namespace Node

mutual

/-- The tree without blank lines. -/
def collapsed : Node → Node
  | mk label attrs children => mk label.collapsed (collapsedAttrs attrs) (collapsedAll children)

/-- A row of nodes without blank lines. -/
def collapsedAll : List Node → List Node
  | [] => []
  | node :: rest => collapsed node :: collapsedAll rest

end

theorem collapsedAll_eq (nodes : List Node) : collapsedAll nodes = nodes.map collapsed := by
  induction nodes with
  | nil => rfl
  | cons node nodes ih => rw [collapsedAll, ih, List.map_cons]

theorem tag_collapsed (node : Node) : node.collapsed.tag = node.tag := by
  obtain ⟨label, attrs, children⟩ := node
  rw [collapsed]
  cases label <;> rfl

theorem isText_collapsed (node : Node) : node.collapsed.isText = node.isText := by
  obtain ⟨label, attrs, children⟩ := node
  rw [collapsed]
  cases label <;> rfl

end Node

theorem collapsedAll_textNodes (t : Text) :
    Node.collapsedAll (textNodes t) = textNodes (collapseBlankLines t) := by
  unfold textNodes
  split
  · next h => rw [h, collapseBlankLines_nil]; rfl
  · next h => rw [if_neg fun hNil => h (collapseBlankLines_eq_nil hNil)]; rfl

/-! ## 2. Texts and tags -/

theorem keepsBlanks_escapeInText : KeepsBlanks escapeInText where
  blank c hc := by
    unfold escapeInText
    split
    · exact absurd hc (by decide)
    · exact absurd hc (by decide)
    · exact absurd hc (by decide)
    · rfl
  other c hc := by
    refine ⟨escapeInText_ne_nil c, ?_⟩
    unfold escapeInText
    split
    · decide
    · decide
    · decide
    · exact List.forall_mem_singleton.2 hc

theorem keepsBlanks_escapeInValue : KeepsBlanks escapeInValue where
  blank c hc := by
    unfold escapeInValue
    split
    · exact absurd hc (by decide)
    · exact absurd hc (by decide)
    · exact keepsBlanks_escapeInText.blank c hc
  other c hc := by
    unfold escapeInValue
    split
    · decide
    · decide
    · exact keepsBlanks_escapeInText.other c hc

theorem collapseBlankLines_textHtml (raw : Bool) (t : Text) :
    collapseBlankLines (textHtml raw t) = textHtml raw (collapseBlankLines t) := by
  cases raw with
  | true => rfl
  | false => exact collapseBlankLines_flatMap keepsBlanks_escapeInText t

theorem ne_lineFeed {c : CodePoint} (hc : c.isBlank = false) : lineFeed ≠ c := fun e =>
  absurd (e ▸ hc) (by decide)

theorem lineFeed_not_mem_tag {tag : Text} (h : ∀ c ∈ tag, inStrictName c = true) :
    lineFeed ∉ tag := fun hMem => ne_lineFeed (isBlank_of_strict (h _ hMem)) rfl

theorem lineFeed_not_mem_attrName {name : Text} (h : IsAttrName name) : lineFeed ∉ name := by
  obtain ⟨c, rest, rfl⟩ := List.exists_cons_of_ne_nil h.nonempty
  intro hMem
  rcases List.mem_cons.1 hMem with hFirst | hRest
  · have hBegins := h.begins c rfl
    rw [← hFirst] at hBegins
    exact absurd hBegins (by decide)
  · exact absurd (h.continues lineFeed hRest) (by decide)

theorem collapseBlankLines_attrsHtml {attrs : List (Text × Text)}
    (h : ∀ attr ∈ attrs, IsAttrName attr.1) (rest : Text) :
    collapseBlankLines (attrsHtml attrs ++ rest)
      = attrsHtml (collapsedAttrs attrs) ++ collapseBlankLines rest := by
  induction attrs with
  | nil => rfl
  | cons attr attrs ih =>
    obtain ⟨name, value⟩ := attr
    obtain ⟨hName, hAttrs⟩ := List.forall_mem_cons.1 h
    have hBefore : lineFeed ∉ .scalar ' ' :: name ++ ("=\"" : Text) := by
      have hSigns : lineFeed ∉ ("=\"" : Text) ∧ lineFeed ≠ .scalar ' ' := by decide
      simp [lineFeed_not_mem_attrName hName, hSigns]
    have hHtml : attrsHtml ((name, value) :: attrs) ++ rest = .scalar ' ' :: name ++ ("=\"" : Text)
        ++ (escapeValue value ++ .scalar '"' :: (attrsHtml attrs ++ rest)) := by
      simp [attrsHtml]
    have hCollapsed : attrsHtml (collapsedAttrs ((name, value) :: attrs))
        = .scalar ' ' :: name ++ ("=\"" : Text) ++ (escapeValue (collapseBlankLines value)
          ++ .scalar '"' :: attrsHtml (collapsedAttrs attrs)) := by
      simp [attrsHtml, collapsedAttrs]
    have hValue : collapseBlankLines (escapeValue value) = escapeValue (collapseBlankLines value) :=
      collapseBlankLines_flatMap keepsBlanks_escapeInValue value
    rw [hHtml, collapseBlankLines_of_not_mem hBefore, collapseBlankLines_append (by decide), hValue,
      ih hAttrs, hCollapsed]
    simp only [List.append_assoc, List.cons_append]

variable {tag : Text}

theorem collapseBlankLines_startTagHtml (hTag : ∀ c ∈ tag, inStrictName c = true)
    {attrs : List (Text × Text)} (h : ∀ attr ∈ attrs, IsAttrName attr.1) (rest : Text) :
    collapseBlankLines (startTagHtml tag attrs ++ rest)
      = startTagHtml tag (collapsedAttrs attrs) ++ collapseBlankLines rest := by
  have hBefore : lineFeed ∉ CodePoint.scalar '<' :: tag := by
    simp [lineFeed_not_mem_tag hTag]
  have hHtml : startTagHtml tag attrs ++ rest
      = .scalar '<' :: tag ++ (attrsHtml attrs ++ .scalar '>' :: rest) := by simp [startTagHtml]
  rw [hHtml, collapseBlankLines_of_not_mem hBefore, collapseBlankLines_attrsHtml h,
    collapseBlankLines_cons (by decide), startTagHtml]
  simp

theorem collapseBlankLines_endTagHtml (hTag : ∀ c ∈ tag, inStrictName c = true) (rest : Text) :
    collapseBlankLines (endTagHtml tag ++ rest) = endTagHtml tag ++ collapseBlankLines rest := by
  refine collapseBlankLines_of_not_mem ?_ rest
  have hSigns : lineFeed ∉ ("</" : Text) ∧ lineFeed ≠ .scalar '>' := by decide
  simp [endTagHtml, lineFeed_not_mem_tag hTag, hSigns]

/-! ## 3. Nodes -/

/-- Whether a node that is written loses its blank lines as the tree does,
whatever follows it where it can stand. -/
def CollapsesAlone (node : Node) : Prop :=
  ∀ (raw : Bool) (rest : Text), (node.isText = true → BeginsApart rest) →
    collapseBlankLines (node.htmlIn raw ++ rest)
      = node.collapsed.htmlIn raw ++ collapseBlankLines rest

theorem collapseBlankLines_row {nodes : List Node} (h : ∀ node ∈ nodes, CollapsesAlone node)
    (hShape : ∀ node ∈ nodes, node.WellFormed) (hSeparate : Separate nodes) (raw : Bool)
    {rest : Text} (hRest : BeginsApart rest) :
    collapseBlankLines (Node.htmlOfAll raw nodes ++ rest)
      = Node.htmlOfAll raw (Node.collapsedAll nodes) ++ collapseBlankLines rest := by
  induction nodes with
  | nil => rfl
  | cons node nodes ih =>
    obtain ⟨hNode, hNodes⟩ := List.forall_mem_cons.1 h
    obtain ⟨_, hShape⟩ := List.forall_mem_cons.1 hShape
    rw [Node.htmlOfAll, List.append_assoc, hNode raw _ fun hText =>
      beginsApart_htmlOfAll hShape hSeparate hText raw hRest, ih hNodes hShape hSeparate.tail,
      Node.collapsedAll, Node.htmlOfAll, List.append_assoc]

theorem collapsesAlone_text (content : Text) : CollapsesAlone (.text content) := by
  intro raw rest hRest
  have hText : collapseBlankLines (textHtml raw content ++ rest)
      = textHtml raw (collapseBlankLines content) ++ collapseBlankLines rest := by
    rw [← collapseBlankLines_textHtml]
    cases rest with
    | nil => rw [List.append_nil, collapseBlankLines_nil, List.append_nil]
    | cons c rest =>
      obtain rfl := hRest rfl c rfl
      exact collapseBlankLines_append_before (by decide) _ rest
  exact hText

theorem collapsesAlone_comment (content : Text) : CollapsesAlone (.comment content) := by
  intro raw rest _
  have hHtml (content : Text) : Node.htmlIn raw (.comment content)
      = ("<!--" : Text) ++ content ++ ("-->" : Text) := rfl
  have hBegin : lineFeed ∉ ("<!--" : Text) := by decide
  have hEnd : lineFeed ∉ ("-->" : Text) := by decide
  have hMiddle : collapseBlankLines (content ++ (("-->" : Text) ++ rest))
      = collapseBlankLines content ++ collapseBlankLines (("-->" : Text) ++ rest) :=
    collapseBlankLines_append_before (by decide) content _
  rw [show (Node.comment content).collapsed = .comment (collapseBlankLines content) from rfl, hHtml,
    hHtml, List.append_assoc, List.append_assoc, collapseBlankLines_of_not_mem hBegin, hMiddle,
    collapseBlankLines_of_not_mem hEnd, List.append_assoc, List.append_assoc]

theorem collapsesAlone_doctype (content : Text) : CollapsesAlone (.doctype content) := by
  intro raw rest _
  have hHtml (content : Text) : Node.htmlIn raw (.doctype content)
      = ("<!DOCTYPE " : Text) ++ content ++ [.scalar '>'] := rfl
  have hBegin : lineFeed ∉ ("<!DOCTYPE " : Text) := by decide
  rw [show (Node.doctype content).collapsed = .doctype (collapseBlankLines content) from rfl, hHtml,
    hHtml, List.append_assoc, List.append_assoc, collapseBlankLines_of_not_mem hBegin,
    List.singleton_append, collapseBlankLines_append (by decide), List.append_assoc,
    List.append_assoc]
  rfl

/-- All nodes of a tree that reads back lose their blank lines alone. -/
theorem collapsesAlone (node : Node) (h : Everywhere Node.Intact [node]) :
    CollapsesAlone node := by
  induction node using Node.induct with
  | step label attrs children ih =>
    obtain ⟨⟨hShape, hLexical, hStrict⟩, hBelow⟩ := everywhere_singleton.1 h
    cases label with
    | element tag =>
      obtain ⟨_, hVoid, hSeparate, _⟩ := hShape
      obtain ⟨_, hAttrs, _⟩ := hLexical
      have hTag : ∀ c ∈ tag, inStrictName c = true := List.all_eq_true.1 (hStrict rfl)
      intro raw rest _
      rw [Node.collapsed, Label.collapsed]
      cases hIsVoid : isVoid tag with
      | true =>
        rw [Node.htmlIn, Node.htmlIn, if_pos hIsVoid, if_pos hIsVoid]
        exact collapseBlankLines_startTagHtml hTag hAttrs rest
      | false =>
        have hEnd : BeginsApart (endTagHtml tag ++ rest) := by
          intro c hc
          cases hc
          rfl
        have hChildren := collapseBlankLines_row (fun child hChild => ih child hChild
          (everywhere_singleton.2 (hBelow.of_mem hChild))) (fun child hChild =>
          (hBelow.of_mem hChild).1.1) hSeparate (isRawText tag) hEnd
        rw [Node.htmlIn, Node.htmlIn, if_neg (by simp [hIsVoid]), if_neg (by simp [hIsVoid]),
          List.append_assoc, List.append_assoc, collapseBlankLines_startTagHtml hTag hAttrs,
          hChildren, collapseBlankLines_endTagHtml hTag]
        simp only [List.append_assoc]
    | text content =>
      obtain ⟨_, rfl, rfl⟩ := hShape
      exact collapsesAlone_text content
    | comment content =>
      obtain ⟨rfl, rfl⟩ := hShape
      exact collapsesAlone_comment content
    | doctype content =>
      obtain ⟨rfl, rfl⟩ := hShape
      exact collapsesAlone_doctype content
    | fragment => exact hShape.elim

/-- Without its blank lines, the HTML of a row of trees that reads back is the
HTML of the trees without blank lines. -/
theorem collapseBlankLines_htmlOfAll {nodes : List Node} (h : Everywhere Node.Intact nodes)
    (hSeparate : Separate nodes) :
    collapseBlankLines (Node.htmlOfAll false nodes)
      = Node.htmlOfAll false (Node.collapsedAll nodes) := by
  have hNothing : BeginsApart [] := fun c hc => by cases hc
  have hRow := collapseBlankLines_row
    (fun node hNode => collapsesAlone node (everywhere_singleton.2 (h.of_mem hNode)))
    (fun node hNode => (h.of_mem hNode).1.1) hSeparate false hNothing
  rw [List.append_nil, collapseBlankLines_nil, List.append_nil] at hRow
  exact hRow

/-! ## 4. Reading back -/

theorem separate_map {f : Node → Node} (hf : ∀ node, (f node).isText = node.isText)
    {nodes : List Node} (h : Separate nodes) : Separate (nodes.map f) := by
  rw [Separate, List.isChain_map]
  refine h.imp fun a b hab => ?_
  rw [hf, hf]
  exact hab

theorem separate_collapsedAll {nodes : List Node} (h : Separate nodes) :
    Separate (Node.collapsedAll nodes) := by
  rw [Node.collapsedAll_eq]
  exact separate_map Node.isText_collapsed h

/-- A node that reads back does so without its blank lines. -/
theorem intact_collapsed {node : Node} (h : node.Intact) : node.collapsed.Intact := by
  obtain ⟨label, attrs, children⟩ := node
  obtain ⟨hShape, hLexical, hStrict⟩ := h
  rw [Node.collapsed]
  cases label with
  | element tag =>
    obtain ⟨hNames, hVoid, hSeparate, hInside⟩ := hShape
    obtain ⟨hTag, hAttrs, hRaw⟩ := hLexical
    refine ⟨⟨?_, fun hIs => ?_, separate_collapsedAll hSeparate, fun child hChild => ?_⟩,
      ⟨hTag, fun attr hAttr => ?_, fun hIs => ?_⟩, hStrict⟩
    · have hSame : Table.names (collapsedAttrs attrs) = Table.names attrs := by
        rw [Table.names, Table.names, collapsedAttrs, List.map_map]
        rfl
      rw [hSame]
      exact hNames
    · rw [hVoid hIs]
      rfl
    · rw [Node.collapsedAll_eq] at hChild
      obtain ⟨original, hOriginal, rfl⟩ := List.mem_map.1 hChild
      rw [Node.tag_collapsed]
      exact hInside original hOriginal
    · obtain ⟨original, hOriginal, rfl⟩ := List.mem_map.1 hAttr
      exact hAttrs original hOriginal
    · obtain ⟨t, hContent, rfl⟩ := hRaw hIs
      exact ⟨_, isRawContent_collapseBlankLines hIs hContent, collapsedAll_textNodes t⟩
  | text content =>
    obtain ⟨hContent, rfl, rfl⟩ := hShape
    exact ⟨⟨fun hNil => hContent (collapseBlankLines_eq_nil hNil), rfl, rfl⟩, trivial, hStrict⟩
  | comment content =>
    obtain ⟨rfl, rfl⟩ := hShape
    have hComment := respaced_collapseBlankLines content
    exact ⟨⟨rfl, rfl⟩, hComment.splitAtMark_commentEnd_eq_none hLexical, hStrict⟩
  | doctype content =>
    obtain ⟨rfl, rfl⟩ := hShape
    exact ⟨⟨rfl, rfl⟩, ⟨fun hMem => hLexical.1 ((collapseBlankLines_sublist content).mem hMem),
      trim_collapseBlankLines hLexical.2⟩, hStrict⟩
  | fragment => exact hShape.elim

/-- A row of trees that reads back does so without its blank lines. -/
theorem everywhere_collapsedAll {nodes : List Node} (h : Everywhere Node.Intact nodes) :
    Everywhere Node.Intact (Node.collapsedAll nodes) := by
  have hMap {row : List Node} (hRow : ∀ node ∈ row, Everywhere Node.Intact [node.collapsed]) :
      Everywhere Node.Intact (Node.collapsedAll row) := by
    rw [Node.collapsedAll_eq]
    exact everywhere_of_forall_mem (List.forall_mem_map.2 hRow)
  refine hMap (h.induct fun label attrs children hHere ih => ?_)
  have hChildren : (Node.mk label attrs children).collapsed.children
      = Node.collapsedAll children := by rw [Node.collapsed]; rfl
  exact everywhere_singleton.2 ⟨intact_collapsed hHere, hChildren ▸ hMap ih⟩

end TreeTemplate
