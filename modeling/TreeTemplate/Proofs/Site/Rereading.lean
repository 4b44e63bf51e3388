/-
TreeTemplate.Proofs.Site.Rereading — the text of a document, read again.

White space is taken out of the bodies of a document, the document is
written, and blank lines are taken out of what is written. The result can
always be read again, and all that its text has lost is white space. What
counts as white space here is Unicode's: a nonbreaking space is lost like any
other where it is all that a text in a body has, or stands in a blank line.
The white space of HTML is all that is lost exactly if no other white space
stands at such a place.

* `intact_withoutSpace`, `intact_withoutBodySpace` — trees can be read back
  without the white space that is taken out.
* `Node.texts`, `Node.spaceTaken`, `bodySpaceTaken` — the texts of a tree, and
  those that are taken out.
* `Lacks` — what a text lacks of another.
* `reread_documentText` — the main statement.
-/
import TreeTemplate.Proofs.Site.Collapsing
import TreeTemplate.Proofs.Site.KeptSpace

namespace TreeTemplate

/-! ## 1. Reading back without white space -/

/-- Other children with which a node reads back. -/
theorem intact_mk {label : Label} {attrs : List (Text × Text)} {children others : List Node}
    (h : (Node.mk label attrs children).Intact) (hNil : children = [] → others = [])
    (hSeparate : Separate children → Separate others)
    (hTags : ∀ other ∈ others, ∃ child ∈ children, other.tag = child.tag)
    (hRaw : isRawText (Node.mk label [] []).tag = true → others = children) :
    (Node.mk label attrs others).Intact := by
  obtain ⟨hShape, hLexical, hStrict⟩ := h
  cases label with
  | element tag =>
    obtain ⟨hNames, hVoid, hRow, hInside⟩ := hShape
    obtain ⟨hTag, hAttrs, hContent⟩ := hLexical
    refine ⟨⟨hNames, fun hIs => hNil (hVoid hIs), hSeparate hRow, fun other hOther => ?_⟩,
      ⟨hTag, hAttrs, fun hIs => ?_⟩, hStrict⟩
    · obtain ⟨child, hChild, hSame⟩ := hTags other hOther
      rw [hSame]
      exact hInside child hChild
    · rw [hRaw hIs]
      exact hContent hIs
  | text content => exact ⟨⟨hShape.1, hShape.2.1, hNil hShape.2.2⟩, hLexical, hStrict⟩
  | comment content => exact ⟨⟨hShape.1, hNil hShape.2⟩, hLexical, hStrict⟩
  | doctype content => exact ⟨⟨hShape.1, hNil hShape.2⟩, hLexical, hStrict⟩
  | fragment => exact hShape.elim

/-- Only texts are taken out, so what comes beside each other was kept apart
by a text. -/
theorem separate_filter {nodes : List Node} (h : Separate nodes) :
    Separate (nodes.filter fun node => !node.isBlankText) := by
  induction nodes with
  | nil => exact .nil
  | cons node nodes ih =>
    obtain ⟨hNext, hRest⟩ := List.isChain_cons.1 h
    cases hBlank : node.isBlankText with
    | true =>
      rw [List.filter_cons_of_neg (by simp [hBlank])]
      exact ih hRest
    | false =>
      rw [List.filter_cons_of_pos (by simp [hBlank])]
      refine List.isChain_cons.2 ⟨fun next hHead hText => ?_, ih hRest⟩
      cases nodes with
      | nil => cases hHead
      | cons other nodes =>
        have hOther : other.isText = false := hNext other rfl hText
        have hStays : other.isBlankText = false := by
          rw [Node.isBlankText_eq, hOther, Bool.false_and]
        rw [List.filter_cons_of_pos (by simp [hStays])] at hHead
        cases hHead
        exact hOther

theorem everywhere_withoutSpaceAll {nodes : List Node}
    (h : ∀ node ∈ nodes, Everywhere Node.Intact [node.withoutSpace]) :
    Everywhere Node.Intact (Node.withoutSpaceAll nodes) := by
  rw [Node.withoutSpaceAll_eq]
  exact everywhere_of_forall_mem (List.forall_mem_map.2 fun node hNode =>
    h node (List.mem_of_mem_filter hNode))

/-- A tree that reads back does so without white space. -/
theorem intact_withoutSpace (node : Node) (h : Everywhere Node.Intact [node]) :
    Everywhere Node.Intact [node.withoutSpace] := by
  induction node using Node.induct with
  | step label attrs children ih =>
    cases hKeeps : keepsSpace (Node.mk label [] []).tag with
    | true =>
      have hStays : (Node.mk label attrs children).withoutSpace = .mk label attrs children :=
        Node.withoutSpace_of_keepsSpace hKeeps
      rw [hStays]
      exact h
    | false =>
      obtain ⟨hHere, hBelow⟩ := everywhere_singleton.1 h
      rw [Node.withoutSpace_mk label hKeeps]
      refine everywhere_singleton.2 ⟨intact_mk hHere (fun hNil => ?_) (fun hRow => ?_)
        (fun other hOther => ?_) (fun hRaw => ?_), everywhere_withoutSpaceAll fun child hChild =>
          ih child hChild (everywhere_singleton.2 (hBelow.of_mem hChild))⟩
      · rw [hNil]
        rfl
      · rw [Node.withoutSpaceAll_eq]
        exact separate_map Node.isText_withoutSpace (separate_filter hRow)
      · rw [Node.withoutSpaceAll_eq] at hOther
        obtain ⟨child, hChild, rfl⟩ := List.mem_map.1 hOther
        exact ⟨child, List.mem_of_mem_filter hChild, Node.tag_withoutSpace child⟩
      · rw [keepsSpace_of_isRawText hRaw] at hKeeps
        cases hKeeps

/-- In raw text there is no body. -/
theorem withoutBodySpaceAll_textNodes (t : Text) :
    withoutBodySpaceAll (textNodes t) = textNodes t := by
  unfold textNodes
  split
  · rfl
  · rw [withoutBodySpaceAll, Node.text, withoutBodySpace, if_neg (by simp)]
    rfl

/-- A tree that reads back does so without white space in its bodies. -/
theorem intact_withoutBodySpace (node : Node) (h : Everywhere Node.Intact [node]) :
    Everywhere Node.Intact [withoutBodySpace node] := by
  induction node using Node.induct with
  | step label attrs children ih =>
    by_cases hBody : label = .element bodyTag
    · rw [withoutBodySpace, if_pos hBody]
      exact intact_withoutSpace _ h
    · obtain ⟨hHere, hBelow⟩ := everywhere_singleton.1 h
      rw [withoutBodySpace, if_neg hBody]
      refine everywhere_singleton.2 ⟨intact_mk hHere (fun hNil => ?_) (fun hRow => ?_)
        (fun other hOther => ?_) (fun hRaw => ?_), ?_⟩
      · rw [hNil]
        rfl
      · rw [withoutBodySpaceAll_eq]
        exact separate_map (fun node => by rw [Node.isText, Node.isText, label_withoutBodySpace])
          hRow
      · rw [withoutBodySpaceAll_eq] at hOther
        obtain ⟨child, hChild, rfl⟩ := List.mem_map.1 hOther
        exact ⟨child, hChild, tag_withoutBodySpace child⟩
      · cases label with
        | element tag =>
          obtain ⟨t, _, rfl⟩ := hHere.2.1.2.2 hRaw
          exact withoutBodySpaceAll_textNodes t
        | _ => exact absurd (show isRawText [] = true from hRaw) (by decide)
      · have hChildren : Everywhere Node.Intact (children.map withoutBodySpace) :=
          everywhere_of_forall_mem (List.forall_mem_map.2 fun child hChild =>
            ih child hChild (everywhere_singleton.2 (hBelow.of_mem hChild)))
        rw [← withoutBodySpaceAll_eq] at hChildren
        exact hChildren

/-! ## 2. The texts of a tree -/

namespace Node

mutual

/-- The texts in a node, in order. -/
def texts : Node → List Text
  | mk (.text content) _ _ => [content]
  | mk _ _ children => textsOfAll children

/-- The texts in a row of nodes, in order. -/
def textsOfAll : List Node → List Text
  | [] => []
  | node :: rest => texts node ++ textsOfAll rest

end

mutual

/-- The texts that are taken out of a tree as white space. -/
def spaceTaken : Node → List Text
  | mk (.text _) _ _ => []
  | mk label attrs children =>
    if keepsSpace (mk label attrs children).tag then [] else spaceTakenAll children

/-- The texts that are taken out of a row of nodes as white space. -/
def spaceTakenAll : List Node → List Text
  | [] => []
  | node :: rest =>
    if node.isBlankText then node.textContent :: spaceTakenAll rest
    else spaceTaken node ++ spaceTakenAll rest

end

/-- A label is that of a text, or not. -/
theorem text_or_other (label : Label) :
    (∃ content, label = .text content) ∨ (mk label [] []).isText = false := by
  cases label with
  | text content => exact .inl ⟨content, rfl⟩
  | _ => exact .inr rfl

/-- What a node holds, if it is no text itself. -/
theorem textContent_mk {label : Label} (h : (mk label [] []).isText = false)
    (attrs : Table Text) (children : List Node) :
    (mk label attrs children).textContent = textContents children ∧
      (mk label attrs children).texts = textsOfAll children ∧
      (mk label attrs children).spaceTaken =
        if keepsSpace (mk label [] []).tag then [] else spaceTakenAll children := by
  cases label with
  | text content => cases h
  | _ => exact ⟨rfl, rfl, rfl⟩

end Node

mutual

/-- The texts that are taken out of the bodies of a tree as white space. -/
def bodySpaceTaken : Node → List Text
  | .mk (.text _) _ _ => []
  | .mk label attrs children =>
    if label = .element bodyTag then (Node.mk label attrs children).spaceTaken
    else bodySpaceTakenAll children

/-- The same for a row of nodes. -/
def bodySpaceTakenAll : List Node → List Text
  | [] => []
  | node :: rest => bodySpaceTaken node ++ bodySpaceTakenAll rest

end

theorem bodySpaceTaken_mk {label : Label} (h : (Node.mk label [] []).isText = false)
    (attrs : Table Text) (children : List Node) :
    bodySpaceTaken (.mk label attrs children) =
      if label = .element bodyTag then (Node.mk label attrs children).spaceTaken
      else bodySpaceTakenAll children := by
  cases label with
  | text content => cases h
  | _ => rfl

theorem textContents_of_forall_mem {nodes : List Node}
    (h : ∀ node ∈ nodes, node.textContent = node.texts.flatten) :
    Node.textContents nodes = (Node.textsOfAll nodes).flatten := by
  induction nodes with
  | nil => rfl
  | cons node nodes ih =>
    obtain ⟨hNode, hNodes⟩ := List.forall_mem_cons.1 h
    rw [Node.textContents, Node.textsOfAll, hNode, ih hNodes, List.flatten_append]

theorem textContent_eq (node : Node) : node.textContent = node.texts.flatten := by
  induction node using Node.induct with
  | step label attrs children ih =>
    rcases Node.text_or_other label with ⟨content, rfl⟩ | hText
    · exact (List.append_nil content).symm
    · obtain ⟨hContent, hTexts, -⟩ := Node.textContent_mk hText attrs children
      rw [hContent, hTexts, textContents_of_forall_mem ih]

/-! ## 3. What a text lacks -/

variable {p : CodePoint → Bool}

/-- Whether a text, of the code points of a kind, lacks of another text what
stands in some texts, and nothing else. -/
structure Lacks (p : CodePoint → Bool) (s t : Text) (taken : List Text) : Prop where
  sublist : (s.filter p).Sublist (t.filter p)
  same_iff : s.filter p = t.filter p ↔ ∀ u ∈ taken, u.filter p = []

namespace Lacks

variable {s s' t t' : Text} {taken taken' : List Text}

theorem refl (t : Text) : Lacks p t t [] := ⟨.refl _, iff_of_true rfl (List.forall_mem_nil _)⟩

/-- A text that is taken out as a whole. -/
theorem whole (t : Text) : Lacks p [] t [t] where
  sublist := List.nil_sublist _
  same_iff := by
    rw [List.forall_mem_singleton]
    exact eq_comm

theorem append (h : Lacks p s t taken) (h' : Lacks p s' t' taken') :
    Lacks p (s ++ s') (t ++ t') (taken ++ taken') where
  sublist := by
    rw [List.filter_append, List.filter_append]
    exact h.sublist.append h'.sublist
  same_iff := by
    rw [List.filter_append, List.filter_append,
      append_eq_append_iff_of_sublist h.sublist h'.sublist, h.same_iff, h'.same_iff,
      List.forall_mem_append]

end Lacks

theorem lacks_withoutSpaceAll {nodes : List Node}
    (h : ∀ node ∈ nodes, Lacks p node.withoutSpace.textContent node.textContent node.spaceTaken) :
    Lacks p (Node.textContents (Node.withoutSpaceAll nodes)) (Node.textContents nodes)
      (Node.spaceTakenAll nodes) := by
  induction nodes with
  | nil => exact .refl _
  | cons node nodes ih =>
    obtain ⟨hNode, hNodes⟩ := List.forall_mem_cons.1 h
    rw [Node.withoutSpaceAll, Node.textContents, Node.spaceTakenAll]
    split
    · exact (Lacks.whole node.textContent).append (ih hNodes)
    · exact hNode.append (ih hNodes)

/-- Texts stay as they are. -/
theorem withoutSpace_text (content : Text) (attrs : Table Text) (children : List Node) :
    (Node.mk (.text content) attrs children).withoutSpace.textContent = content := by
  rw [Node.withoutSpace_mk (.text content) (show keepsSpace [] = false by decide)]
  rfl

/-- A tree without white space lacks the texts that are taken out. -/
theorem lacks_withoutSpace (node : Node) :
    Lacks p node.withoutSpace.textContent node.textContent node.spaceTaken := by
  induction node using Node.induct with
  | step label attrs children ih =>
    rcases Node.text_or_other label with ⟨content, rfl⟩ | hText
    · rw [withoutSpace_text]
      exact .refl content
    · obtain ⟨hContent, -, hTaken⟩ := Node.textContent_mk hText attrs children
      cases hKeeps : keepsSpace (Node.mk label [] []).tag with
      | true =>
        have hStays : (Node.mk label attrs children).withoutSpace = .mk label attrs children :=
          Node.withoutSpace_of_keepsSpace hKeeps
        rw [hStays, hTaken, if_pos hKeeps]
        exact .refl _
      | false =>
        obtain ⟨hLeft, -, -⟩ :=
          Node.textContent_mk hText attrs (Node.withoutSpaceAll children)
        rw [Node.withoutSpace_mk label hKeeps, hLeft, hContent, hTaken, hKeeps,
          if_neg (by decide)]
        exact lacks_withoutSpaceAll ih

theorem lacks_withoutBodySpaceAll {nodes : List Node}
    (h : ∀ node ∈ nodes,
      Lacks p (withoutBodySpace node).textContent node.textContent (bodySpaceTaken node)) :
    Lacks p (Node.textContents (withoutBodySpaceAll nodes)) (Node.textContents nodes)
      (bodySpaceTakenAll nodes) := by
  induction nodes with
  | nil => exact .refl _
  | cons node nodes ih =>
    obtain ⟨hNode, hNodes⟩ := List.forall_mem_cons.1 h
    rw [withoutBodySpaceAll, Node.textContents, Node.textContents, bodySpaceTakenAll]
    exact hNode.append (ih hNodes)

/-- And so does a tree without white space in its bodies. -/
theorem lacks_withoutBodySpace (node : Node) :
    Lacks p (withoutBodySpace node).textContent node.textContent (bodySpaceTaken node) := by
  induction node using Node.induct with
  | step label attrs children ih =>
    rcases Node.text_or_other label with ⟨content, rfl⟩ | hText
    · rw [withoutBodySpace, if_neg (by simp)]
      exact .refl content
    · obtain ⟨hContent, -, -⟩ := Node.textContent_mk hText attrs children
      have hTaken := bodySpaceTaken_mk hText attrs children
      by_cases hBody : label = .element bodyTag
      · rw [withoutBodySpace, hTaken, if_pos hBody, if_pos hBody]
        exact lacks_withoutSpace _
      · obtain ⟨hLeft, -, -⟩ := Node.textContent_mk hText attrs (withoutBodySpaceAll children)
        rw [withoutBodySpace, hTaken, if_neg hBody, if_neg hBody, hLeft, hContent]
        exact lacks_withoutBodySpaceAll ih

theorem textsOfAll_collapsedAll {nodes : List Node}
    (h : ∀ node ∈ nodes, node.collapsed.texts = node.texts.map collapseBlankLines) :
    Node.textsOfAll (Node.collapsedAll nodes)
      = (Node.textsOfAll nodes).map collapseBlankLines := by
  induction nodes with
  | nil => rfl
  | cons node nodes ih =>
    obtain ⟨hNode, hNodes⟩ := List.forall_mem_cons.1 h
    rw [Node.collapsedAll, Node.textsOfAll, Node.textsOfAll, hNode, ih hNodes, List.map_append]

/-- Each text loses its own blank lines. -/
theorem texts_collapsed (node : Node) :
    node.collapsed.texts = node.texts.map collapseBlankLines := by
  induction node using Node.induct with
  | step label attrs children ih =>
    rw [Node.collapsed]
    cases label with
    | text content => rfl
    | _ => exact textsOfAll_collapsedAll ih

/-- A tree without blank lines lacks what stands in them. -/
theorem textContent_collapsed_iff (hp : p lineFeed = false) (node : Node) :
    (node.collapsed.textContent.filter p).Sublist (node.textContent.filter p) ∧
      (node.collapsed.textContent.filter p = node.textContent.filter p ↔
        ∀ t ∈ node.texts, BlankLinesLack p t) := by
  obtain ⟨hSublist, hSame⟩ := flatMap_sublist (l := node.texts)
    (f := fun t => (collapseBlankLines t).filter p) (g := fun t => t.filter p)
    fun t _ => (collapseBlankLines_sublist t).filter p
  have hLeft : node.collapsed.textContent.filter p
      = node.texts.flatMap fun t => (collapseBlankLines t).filter p := by
    rw [textContent_eq, texts_collapsed, List.filter_flatten, List.map_map, ← List.flatMap_def]
    rfl
  have hRight : node.textContent.filter p = node.texts.flatMap fun t => t.filter p := by
    rw [textContent_eq, List.filter_flatten, ← List.flatMap_def]
  rw [hLeft, hRight]
  exact ⟨hSublist, hSame.trans (forall₂_congr fun t _ => filter_collapseBlankLines_iff hp)⟩

/-! ## 4. What is lost -/

/-- White space in HTML: the tab, the line feed, the form feed, the carriage
return and the space. -/
def CodePoint.isHtmlSpace (c : CodePoint) : Bool :=
  c = .scalar '\t' || c = .scalar '\n' || c = .scalar '\x0c' || c = .scalar '\r' || c = .scalar ' '

/-- Taking white space out of bodies, and then blank lines. -/
theorem textContent_static_iff (hp : p lineFeed = false) (root : Node) :
    (withoutBodySpace root).collapsed.textContent.filter p = root.textContent.filter p ↔
      (∀ t ∈ bodySpaceTaken root, t.filter p = []) ∧
        ∀ t ∈ (withoutBodySpace root).texts, BlankLinesLack p t := by
  obtain ⟨hSublist, hSame⟩ := lacks_withoutBodySpace (p := p) root
  obtain ⟨hCollapsed, hCollapsedSame⟩ := textContent_collapsed_iff hp (withoutBodySpace root)
  rw [← hSame, ← hCollapsedSame]
  constructor
  · intro h
    have hFirst : (withoutBodySpace root).textContent.filter p = root.textContent.filter p :=
      hSublist.eq_of_length_le (h ▸ hCollapsed.length_le)
    exact ⟨hFirst, h.trans hFirst.symm⟩
  · rintro ⟨hFirst, hThen⟩
    exact hThen.trans hFirst

theorem isBlank_spaceTakenAll {nodes : List Node}
    (h : ∀ node ∈ nodes, ∀ t ∈ node.spaceTaken, t.isBlank = true) :
    ∀ t ∈ Node.spaceTakenAll nodes, t.isBlank = true := by
  induction nodes with
  | nil => exact List.forall_mem_nil _
  | cons node nodes ih =>
    obtain ⟨hNode, hNodes⟩ := List.forall_mem_cons.1 h
    rw [Node.spaceTakenAll]
    split
    · next hBlank =>
      rw [Node.isBlankText_eq, Bool.and_eq_true] at hBlank
      exact List.forall_mem_cons.2 ⟨hBlank.2, ih hNodes⟩
    · exact List.forall_mem_append.2 ⟨hNode, ih hNodes⟩

/-- Only white space is taken out. -/
theorem isBlank_spaceTaken (node : Node) : ∀ t ∈ node.spaceTaken, t.isBlank = true := by
  induction node using Node.induct with
  | step label attrs children ih =>
    rcases Node.text_or_other label with ⟨content, rfl⟩ | hText
    · exact List.forall_mem_nil _
    · rw [(Node.textContent_mk hText attrs children).2.2]
      split
      · exact List.forall_mem_nil _
      · exact isBlank_spaceTakenAll ih

theorem isBlank_bodySpaceTaken (node : Node) : ∀ t ∈ bodySpaceTaken node, t.isBlank = true := by
  have hRow {nodes : List Node} (h : ∀ node ∈ nodes, ∀ t ∈ bodySpaceTaken node, t.isBlank = true) :
      ∀ t ∈ bodySpaceTakenAll nodes, t.isBlank = true := by
    induction nodes with
    | nil => exact List.forall_mem_nil _
    | cons node nodes ih =>
      obtain ⟨hNode, hNodes⟩ := List.forall_mem_cons.1 h
      exact List.forall_mem_append.2 ⟨hNode, ih hNodes⟩
  induction node using Node.induct with
  | step label attrs children ih =>
    rcases Node.text_or_other label with ⟨content, rfl⟩ | hText
    · exact List.forall_mem_nil _
    · rw [bodySpaceTaken_mk hText]
      split
      · exact isBlank_spaceTaken _
      · exact hRow ih

/-- So all else stays. -/
theorem filter_textContent_static (root : Node) :
    (withoutBodySpace root).collapsed.textContent.filter (fun c => !c.isBlank)
      = root.textContent.filter fun c => !c.isBlank := by
  refine (textContent_static_iff (by decide) root).2 ⟨fun t ht => ?_, fun t _ => ?_⟩
  · exact Respaced.filter_blanks (List.all_eq_true.1 (isBlank_bodySpaceTaken root t ht))
  · intro before blanks after _ hBlanks c hc
    simp [hBlanks c hc]

/-! ## 5. Documents -/

variable {document root : Node}

/-- The nodes of the line for the document type. -/
def headNodes (document : Node) : List Node :=
  match document.children.findSome? Node.doctypeContent? with
  | some content => [.doctype content, .text "\n"]
  | none => []

theorem exists_mem_of_doctype {nodes : List Node} {content : Text}
    (h : nodes.findSome? Node.doctypeContent? = some content) :
    ∃ node ∈ nodes, node.label = .doctype content := by
  obtain ⟨node, hNode, hContent⟩ := List.exists_of_findSome?_eq_some h
  refine ⟨node, hNode, ?_⟩
  unfold Node.doctypeContent? at hContent
  split at hContent
  · next hLabel =>
    cases hContent
    exact hLabel
  · cases hContent

theorem htmlOfAll_headNodes (document : Node) :
    Node.htmlOfAll false (headNodes document) = documentHead document := by
  unfold headNodes documentHead
  cases document.children.findSome? Node.doctypeContent? with
  | some content =>
    have hText : Node.htmlIn false (.text "\n") = ("\n" : Text) := by decide
    have hDoctype : Node.htmlIn false (.doctype content)
        = ("<!DOCTYPE " : Text) ++ content ++ [.scalar '>'] := rfl
    dsimp only
    rw [Node.htmlOfAll, Node.htmlOfAll, Node.htmlOfAll, hText, hDoctype, List.append_nil,
      List.append_assoc]
    rfl
  | none => rfl

/-- What has the tag of a document is no document type. -/
theorem isDoctype_of_tag {node : Node} (h : node.tag = htmlTag) : isDoctype node = false := by
  obtain ⟨label, attrs, children⟩ := node
  cases label with
  | doctype content => exact absurd (show [] = htmlTag from h) (by decide)
  | _ => rfl

/-- The only node of a document besides document types. -/
theorem documentRoot_eq (hOnly : document.children.filter (fun node => !isDoctype node) = [root])
    (hLabel : root.label = .element htmlTag) : documentRoot document = root := by
  have hTag : root.tag = htmlTag := by rw [Node.tag, hLabel]
  have hSame : (fun node : Node => decide (node.tag = htmlTag))
      = fun node => decide ((!isDoctype node) = true ∧ decide (node.tag = htmlTag) = true) := by
    funext node
    by_cases h : node.tag = htmlTag
    · simp [h, isDoctype_of_tag h]
    · simp [h]
  have hFind : document.children.find? (fun node => decide (node.tag = htmlTag)) = some root := by
    rw [hSame, ← List.find?_filter, hOnly]
    exact List.find?_cons_of_pos (by simp [hTag])
  rw [documentRoot, hFind]

/-- Document types hold no text. -/
theorem textContents_filter {nodes : List Node} (h : ∀ node ∈ nodes, node.WellFormed) :
    Node.textContents (nodes.filter fun node => !isDoctype node) = Node.textContents nodes := by
  induction nodes with
  | nil => rfl
  | cons node nodes ih =>
    obtain ⟨hNode, hNodes⟩ := List.forall_mem_cons.1 h
    cases hDoctype : isDoctype node with
    | false =>
      rw [List.filter_cons_of_pos (by simp [hDoctype]), Node.textContents, Node.textContents,
        ih hNodes]
    | true =>
      have hNone : node.textContent = [] := by
        obtain ⟨label, attrs, children⟩ := node
        cases label with
        | doctype content =>
          obtain ⟨-, rfl⟩ := hNode
          rfl
        | _ => cases hDoctype
      rw [List.filter_cons_of_neg (by simp [hDoctype]), ih hNodes, Node.textContents, hNone,
        List.nil_append]

theorem textContent_of_only (hFragment : document.label = .fragment)
    (hShape : ∀ node ∈ document.children, node.WellFormed)
    (hOnly : document.children.filter (fun node => !isDoctype node) = [root]) :
    document.textContent = root.textContent := by
  have hChildren : document.textContent = Node.textContents document.children := by
    obtain ⟨label, attrs, children⟩ := document
    cases hFragment
    rfl
  rw [hChildren, ← textContents_filter hShape, hOnly, Node.textContents, Node.textContents,
    List.append_nil]

/-- The line for the document type has a line feed as its only text. -/
theorem filter_headNodes (hp : p lineFeed = false) (document : Node) :
    (Node.textContents (Node.collapsedAll (headNodes document))).filter p = [] := by
  unfold headNodes
  cases document.children.findSome? Node.doctypeContent? with
  | some content =>
    have hText : Node.textContents (Node.collapsedAll [.doctype content, .text "\n"])
        = [lineFeed] := by
      have hStays : collapseBlankLines ("\n" : Text) = [lineFeed] := by decide +kernel
      show [] ++ (collapseBlankLines ("\n" : Text) ++ []) = [lineFeed]
      rw [hStays]
      rfl
    dsimp only
    rw [hText]
    exact List.filter_cons_of_neg (by simp [hp])
  | none => rfl

/-- The nodes of a document that is read, as they are written. -/
theorem intact_headNodes (h : Everywhere Node.Intact document.children) :
    Everywhere Node.Intact (headNodes document) := by
  unfold headNodes
  cases hDoctype : document.children.findSome? Node.doctypeContent? with
  | some content =>
    obtain ⟨node, hNode, hLabel⟩ := exists_mem_of_doctype hDoctype
    obtain ⟨⟨-, hLexical, -⟩, -⟩ := h.of_mem hNode
    have hContent : (Node.doctype content).Lexical := by
      obtain ⟨label, attrs, children⟩ := node
      cases hLabel
      exact hLexical
    have hLine : (Node.text "\n").Intact := ⟨⟨by decide, rfl, rfl⟩, trivial, nofun⟩
    exact everywhere_cons.2 ⟨⟨⟨rfl, rfl⟩, hContent, nofun⟩, everywhere_nil,
      everywhere_singleton.2 ⟨hLine, everywhere_nil⟩⟩
  | none => exact everywhere_nil

theorem separate_headNodes (document : Node) (h : root.isText = false) :
    Separate (headNodes document ++ [root]) := by
  unfold headNodes
  cases document.children.findSome? Node.doctypeContent? with
  | some content =>
    exact .cons_cons (fun hText => by cases hText) (.cons_cons (fun _ => h) (.singleton _))
  | none => exact .singleton _

/-- A document that is written, and read again. -/
theorem parseMarkup_documentText (hFragment : document.label = .fragment)
    (hIntact : Everywhere Node.Intact document.children)
    (hOnly : document.children.filter (fun node => !isDoctype node) = [root])
    (hLabel : root.label = .element htmlTag) :
    parseMarkup (documentText (withoutBodySpace document)) =
      .ok (.fragment (Node.collapsedAll (headNodes document ++ [withoutBodySpace root]))) := by
  have hRoot : root ∈ document.children :=
    List.mem_of_mem_filter (hOnly ▸ List.mem_cons_self : root ∈ document.children.filter _)
  have hNodes : Everywhere Node.Intact (headNodes document ++ [withoutBodySpace root]) :=
    everywhere_append.2 ⟨intact_headNodes hIntact,
      intact_withoutBodySpace root (everywhere_singleton.2 (hIntact.of_mem hRoot))⟩
  have hSeparate : Separate (headNodes document ++ [withoutBodySpace root]) :=
    separate_headNodes document (by rw [Node.isText, label_withoutBodySpace, hLabel])
  have hText : rawDocumentText (withoutBodySpace document)
      = Node.htmlOfAll false (headNodes document ++ [withoutBodySpace root]) := by
    rw [rawDocumentText_eq, documentHead_withoutBodySpace hFragment,
      documentRoot_withoutBodySpace hFragment, documentRoot_eq hOnly hLabel, htmlOfAll_append,
      htmlOfAll_headNodes, Node.htmlOfAll, Node.htmlOfAll, List.append_nil, Node.toHtml]
  rw [documentText, hText, collapseBlankLines_htmlOfAll hNodes hSeparate]
  exact parseMarkup_htmlOfAll (everywhere_collapsedAll hNodes) (separate_collapsedAll hSeparate)

/-- A document that is read, without the white space in its bodies and
without blank lines, can be read again. Its text has lost nothing but white
space; and nothing but the white space of HTML exactly if there is no other in
the texts that are taken out, nor in the blank lines of those that stay. The
document is an `html` element and document types, because nothing else that
stands beside the element is written; and the names of its elements are such as
an end tag can have, because all of it has to be read again. -/
theorem reread_documentText {markup : Text} (hParse : parseMarkup markup = .ok document)
    (hOnly : document.children.filter (fun node => !isDoctype node) = [root])
    (hLabel : root.label = .element htmlTag)
    (hTags : ∀ node ∈ document.subtrees, node.isElement = true →
      node.tag.all inStrictName = true) :
    ∃ reread, parseMarkup (documentText (withoutBodySpace document)) = .ok reread ∧
      reread.textContent.filter (fun c => !c.isBlank)
        = document.textContent.filter (fun c => !c.isBlank) ∧
      (reread.textContent.filter (fun c => !c.isHtmlSpace)
          = document.textContent.filter (fun c => !c.isHtmlSpace) ↔
        (∀ t ∈ bodySpaceTaken root, ∀ c ∈ t, c.isHtmlSpace = true) ∧
          ∀ t ∈ (withoutBodySpace root).texts, BlankLinesLack (fun c => !c.isHtmlSpace) t) := by
  have hFragment := label_of_parseMarkup hParse
  obtain ⟨hShape, -⟩ := wellFormed_parseMarkup hParse
  have hLexical := lexical_parseMarkup hParse
  have hIntact : Everywhere Node.Intact document.children := fun node hNode =>
    ⟨hShape node hNode, hLexical node hNode, hTags node (by
      rw [Node.subtrees_eq]
      exact List.mem_cons_of_mem _ hNode)⟩
  have hContent : document.textContent = root.textContent :=
    textContent_of_only hFragment (fun node hNode => (hShape.of_mem hNode).1) hOnly
  have hReread (p : CodePoint → Bool) (hp : p lineFeed = false) :
      List.filter p (Node.fragment
          (Node.collapsedAll (headNodes document ++ [withoutBodySpace root]))).textContent
        = (withoutBodySpace root).collapsed.textContent.filter p := by
    show List.filter p (Node.textContents _) = _
    rw [Node.collapsedAll_eq, List.map_append, ← Node.collapsedAll_eq, textContents_flatMap,
      List.flatMap_append, ← textContents_flatMap, List.filter_append, filter_headNodes hp]
    simp
  refine ⟨_, parseMarkup_documentText hFragment hIntact hOnly hLabel, ?_, ?_⟩
  · rw [hReread _ (by decide), hContent, filter_textContent_static]
  · rw [hReread _ (by decide), hContent, textContent_static_iff (by decide)]
    refine and_congr_left fun _ => forall₂_congr fun t _ => ?_
    rw [List.filter_eq_nil_iff]
    simp

/-- A page with white space between elements, and with a blank line. -/
theorem reread_documentText_page :
    let markup : Text := ("<!DOCTYPE html><html><body> <p>a\n \nb</p>" : Text)
      ++ ("<script>1 < 2</script>\n</body></html>" : Text)
    let root : Node := .element "html" [] [.element "body" [] [.text " ",
      .element "p" [] [.text "a\n \nb"], .element "script" [] [.text "1 < 2"], .text "\n"]]
    let document : Node := .fragment [.doctype "html", root]
    parseMarkup markup = .ok document ∧
      document.children.filter (fun node => !isDoctype node) = [root] ∧
      root.label = .element htmlTag ∧
      (∀ node ∈ document.subtrees, node.isElement = true → node.tag.all inStrictName = true) ∧
      ∃ reread, parseMarkup (documentText (withoutBodySpace document)) = .ok reread ∧
        reread.textContent.filter (fun c => !c.isHtmlSpace)
          = document.textContent.filter (fun c => !c.isHtmlSpace) := by
  intro markup root document
  have hParse : parseMarkup markup = .ok document := by decide +kernel
  have hOnly : document.children.filter (fun node => !isDoctype node) = [root] := by
    decide +kernel
  have hLabel : root.label = .element htmlTag := by decide +kernel
  have hTags : ∀ node ∈ document.subtrees, node.isElement = true →
      node.tag.all inStrictName = true := by decide +kernel
  have hTaken : ∀ t ∈ bodySpaceTaken root, ∀ c ∈ t, c.isHtmlSpace = true := by decide +kernel
  have hTexts : ∀ t ∈ (withoutBodySpace root).texts,
      (collapseBlankLines t).filter (fun c => !c.isHtmlSpace)
        = t.filter (fun c => !c.isHtmlSpace) := by decide +kernel
  obtain ⟨reread, hReread, -, hSpace⟩ := reread_documentText hParse hOnly hLabel hTags
  refine ⟨hParse, hOnly, hLabel, hTags, reread, hReread, hSpace.2 ⟨hTaken, fun t ht => ?_⟩⟩
  exact (filter_collapseBlankLines_iff (by decide)).1 (hTexts t ht)

/-- A paragraph of a nonbreaking space is empty afterwards. -/
theorem reread_loses_nonbreaking :
    ¬ ∀ (markup : Text) (document root : Node), parseMarkup markup = .ok document →
      document.children.filter (fun node => !isDoctype node) = [root] →
      root.label = .element htmlTag →
      (∀ node ∈ document.subtrees, node.isElement = true →
        node.tag.all inStrictName = true) →
      ∃ reread, parseMarkup (documentText (withoutBodySpace document)) = .ok reread ∧
        reread.textContent.filter (fun c => !c.isHtmlSpace)
          = document.textContent.filter (fun c => !c.isHtmlSpace) := by
  intro h
  let root : Node := .element "html" [] [.element "body" [] [.element "p" [] [.text "\u00a0"]]]
  have hParse : parseMarkup "<html><body><p>&nbsp;</p></body></html>"
      = .ok (.fragment [root]) := by decide +kernel
  obtain ⟨reread, hReread, hSame⟩ := h _ _ root hParse (by decide +kernel) (by decide +kernel)
    (by decide +kernel)
  have hLost : parseMarkup (documentText (withoutBodySpace (.fragment [root])))
      = .ok (.fragment [.element "html" [] [.element "body" [] [.element "p" [] []]]]) := by
    decide +kernel
  obtain rfl := Except.ok.inj (hReread.symm.trans hLost)
  exact absurd hSame (by decide +kernel)

end TreeTemplate
