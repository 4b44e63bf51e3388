/-
TreeTemplate.Proofs.Markup.RoundTrip — reading undoes writing (`parse_markup`
and `to_html`, specification §11).

A node that is written is read back as a step that adds it to the tree under
construction, whatever follows it, as long as it stands where reading would
have left it: texts end before a `<`, and no open element ends where it
begins. The shape of a tree that is read grants both, and a whole tree reads
back node by node.

* `readInto` — reading that goes on from a tree under construction.
* `ReadsBack` — a node whose reading adds it.
* `readsBack_of_intact` — all nodes of a tree that is read, by induction.
* `parseMarkup_toHtml` — the tree as a whole.
-/
import TreeTemplate.Markup.Html
import TreeTemplate.Proofs.Markup.Lexical
import TreeTemplate.Proofs.Markup.WellFormed

namespace TreeTemplate

/-! ## 1. Reading into a tree -/

/-- Reads a text that is inside a raw text element, or in none, into a tree
under construction. -/
def readInto (raw : Option Text) (t : Text) (tree : OpenTree) : Except MarkupError OpenTree :=
  (eventsFrom raw t).map fun events => events.foldl OpenTree.take tree

theorem parseMarkup_eq (t : Text) :
    parseMarkup t = (readInto none t .empty).map OpenTree.finish := by
  rw [parseMarkup, readInto, eventsOf]
  cases eventsFrom none t <;> rfl

theorem readInto_nil (raw : Option Text) (tree : OpenTree) : readInto raw [] tree = .ok tree := by
  rw [readInto, eventsFrom]
  rfl

/-- One step, and what is left. -/
theorem readInto_cons {raw raw' : Option Text} {c : CodePoint} {rest after : Text}
    {events : List Event} (h : scanStep raw c rest = .ok (events, raw', after)) (tree : OpenTree) :
    readInto raw (c :: rest) tree = readInto raw' after (events.foldl OpenTree.take tree) := by
  rw [readInto, eventsFrom]
  split
  · next hError =>
    rw [h] at hError
    cases hError
  · next hOk =>
    rw [h] at hOk
    cases hOk
    rw [readInto]
    cases eventsFrom raw' after with
    | error e => rfl
    | ok later => simp only [Except.map, List.foldl_append]

theorem readInto_construct {t after : Text} {events : List Event}
    (h : readConstruct t = .ok (.finished events after)) (tree : OpenTree) :
    readInto none (.scalar '<' :: t) tree =
      readInto (rawElementAfter events) after (events.foldl OpenTree.take tree) := by
  refine readInto_cons ?_ tree
  rw [scanStep, if_pos rfl, stepAtConstruct, h]

/-- A step through raw text that is not empty. -/
theorem readInto_rawText {tag t : Text} (h : t ≠ []) (tree : OpenTree) :
    readInto (some tag) t tree =
      readInto (stepInRawText tag t).2.1 (stepInRawText tag t).2.2
        ((stepInRawText tag t).1.foldl OpenTree.take tree) := by
  obtain ⟨c, rest, rfl⟩ := List.exists_cons_of_ne_nil h
  exact readInto_cons rfl tree

/-! ## 2. Rows of nodes -/

/-- A text after which a text ends. -/
def BeginsApart (t : Text) : Prop := ∀ c ∈ t.head?, c = .scalar '<'

/-- Whether reading a node that is written adds it to the tree, where it can
stand. -/
def ReadsBack (node : Node) : Prop :=
  ∀ (tree : OpenTree) (rest : Text), (node.isText = true → BeginsApart rest) →
    (∀ inner ∈ tree.stack.head?, closedBy inner.tag node.tag = false) →
    readInto none (node.htmlIn false ++ rest) tree = readInto none rest (tree.add node)

/-- What is not text begins with a `<`. -/
theorem exists_htmlIn {node : Node} (h : node.WellFormed) (hText : node.isText = false)
    (raw : Bool) : ∃ t, node.htmlIn raw = .scalar '<' :: t := by
  obtain ⟨label, attrs, children⟩ := node
  cases label with
  | element tag =>
    rw [Node.htmlIn]
    split
    · exact ⟨_, rfl⟩
    · exact ⟨_, rfl⟩
  | text content => cases hText
  | comment content => exact ⟨_, rfl⟩
  | doctype content => exact ⟨_, rfl⟩
  | fragment => exact h.elim

/-- Behind a text that is no neighbour of another, a row of nodes begins
apart. -/
theorem beginsApart_htmlOfAll {node : Node} {nodes : List Node}
    (hShape : ∀ next ∈ nodes, next.WellFormed) (hSeparate : Separate (node :: nodes))
    (hText : node.isText = true) (raw : Bool) {rest : Text} (hRest : BeginsApart rest) :
    BeginsApart (Node.htmlOfAll raw nodes ++ rest) := by
  cases nodes with
  | nil => exact hRest
  | cons next nodes =>
    have hNext : next.isText = false := (List.isChain_cons_cons.1 hSeparate).1 hText
    obtain ⟨t, hHtml⟩ := exists_htmlIn (hShape next List.mem_cons_self) hNext raw
    rw [Node.htmlOfAll, hHtml]
    intro c hc
    cases hc
    rfl

theorem head?_stack_add {tree : OpenTree} {node : Node} {p : Text → Prop}
    (h : ∀ inner ∈ tree.stack.head?, p inner.tag) :
    ∀ inner ∈ (tree.add node).stack.head?, p inner.tag := by
  obtain ⟨stack, outside⟩ := tree
  cases stack with
  | nil => exact h
  | cons first outer =>
    intro inner hInner
    cases hInner
    exact h first rfl

/-- A row of nodes that all read back. -/
theorem readInto_htmlOfAll {nodes : List Node} (hBack : ∀ node ∈ nodes, ReadsBack node)
    (hShape : ∀ node ∈ nodes, node.WellFormed) (hSeparate : Separate nodes) {rest : Text}
    (hRest : BeginsApart rest) {tree : OpenTree}
    (hNests : ∀ node ∈ nodes, ∀ inner ∈ tree.stack.head?, closedBy inner.tag node.tag = false) :
    readInto none (Node.htmlOfAll false nodes ++ rest) tree =
      readInto none rest (nodes.foldl OpenTree.add tree) := by
  induction nodes generalizing tree with
  | nil => rfl
  | cons node nodes ih =>
    obtain ⟨hNode, hBack⟩ := List.forall_mem_cons.1 hBack
    obtain ⟨_, hShape⟩ := List.forall_mem_cons.1 hShape
    obtain ⟨hHere, hNests⟩ := List.forall_mem_cons.1 hNests
    have hApart (hText : node.isText = true) :
        BeginsApart (Node.htmlOfAll false nodes ++ rest) :=
      beginsApart_htmlOfAll hShape hSeparate hText false hRest
    rw [Node.htmlOfAll, List.append_assoc, hNode tree _ hApart hHere, List.foldl_cons]
    exact ih hBack hShape hSeparate.tail fun other hOther =>
      head?_stack_add (p := fun tag => closedBy tag other.tag = false) (hNests other hOther)

/-- Nodes of which no two are texts beside each other are attached as they
stand. -/
theorem foldl_attach {nodes content : List Node} (hSeparate : Separate nodes)
    (hFirst : ∀ n ∈ nodes.head?, ∀ m ∈ content.head?, m.isText = true → n.isText = false) :
    nodes.foldl attach content = nodes.reverse ++ content := by
  induction nodes generalizing content with
  | nil => rfl
  | cons node nodes ih =>
    rw [List.foldl_cons, attach_eq_cons (hFirst node rfl), List.reverse_cons, List.append_assoc]
    refine ih hSeparate.tail fun n hn m hm => ?_
    cases hm
    cases nodes with
    | nil => cases hn
    | cons next nodes =>
      cases hn
      exact (List.isChain_cons_cons.1 hSeparate).1

theorem foldl_add_nil (nodes outside : List Node) :
    nodes.foldl OpenTree.add ⟨[], outside⟩ = ⟨[], nodes.foldl attach outside⟩ := by
  induction nodes generalizing outside with
  | nil => rfl
  | cons node nodes ih => exact ih _

theorem foldl_add_cons (nodes : List Node) (inner : OpenElement) (outer : List OpenElement)
    (outside : List Node) :
    nodes.foldl OpenTree.add ⟨inner :: outer, outside⟩ =
      ⟨⟨inner.tag, inner.attrs, nodes.foldl attach inner.content⟩ :: outer, outside⟩ := by
  induction nodes generalizing inner with
  | nil => rfl
  | cons node nodes ih => exact ih _

/-! ## 3. Nodes -/

theorem readsBack_text {content : Text} (h : content ≠ []) : ReadsBack (.text content) := by
  intro tree rest hRest _
  have hAngle : ∀ c ∈ escapeText content, (decide (c ≠ .scalar '<')) = true := fun c hc =>
    decide_eq_true fun e => (angle_not_mem_escapeText content).1 (e ▸ hc)
  have hNone : rest.takeWhile (fun c => decide (c ≠ .scalar '<')) = []
      ∧ rest.dropWhile (fun c => decide (c ≠ .scalar '<')) = rest := by
    cases rest with
    | nil => exact ⟨rfl, rfl⟩
    | cons c rest =>
      have hc : ¬ (decide (c ≠ .scalar '<')) = true := by simpa using hRest rfl c rfl
      exact ⟨List.takeWhile_cons_of_neg hc, List.dropWhile_cons_of_neg hc⟩
  have hStep : stepOverText (escapeText content ++ rest)
      = .ok (textEvents content, none, rest) := by
    rw [stepOverText, List.takeWhile_append_of_pos hAngle, List.dropWhile_append_of_pos hAngle,
      hNone.1, hNone.2, List.append_nil, decodeReferences_escapeText]
    rfl
  have hTake : (textEvents content).foldl OpenTree.take tree = tree.add (.text content) := by
    obtain ⟨c, more, rfl⟩ := List.exists_cons_of_ne_nil h
    rfl
  obtain ⟨c, more, hCons⟩ := List.exists_cons_of_ne_nil (mt escapeText_eq_nil h)
  have hc : c ≠ .scalar '<' := by simpa using hAngle c (hCons ▸ List.mem_cons_self)
  rw [show Node.htmlIn false (.text content) = escapeText content from rfl, ← hTake]
  rw [hCons] at hStep ⊢
  exact readInto_cons (by rw [scanStep, if_neg hc]; exact hStep) tree

theorem readsBack_comment {content : Text} (h : splitAtMark commentEnd content = none) :
    ReadsBack (.comment content) := by
  intro tree rest _ _
  have hHtml : Node.htmlIn false (.comment content) ++ rest = .scalar '<' :: .scalar '!'
      :: .scalar '-' :: .scalar '-' :: (content ++ (("-->" : Text) ++ rest)) := by
    rw [show Node.htmlIn false (.comment content)
      = ("<!--" : Text) ++ content ++ ("-->" : Text) from rfl, List.append_assoc, List.append_assoc]
    rfl
  have hConstruct : readConstruct (.scalar '!' :: .scalar '-' :: .scalar '-'
      :: (content ++ (("-->" : Text) ++ rest))) = .ok (.finished [.comment content] rest) := by
    rw [readConstruct, readComment, splitAtMark_comment h]
  rw [hHtml, readInto_construct hConstruct]
  rfl

theorem readsBack_doctype {content : Text} (hAngle : .scalar '>' ∉ content)
    (hTrim : content.trim = content) : ReadsBack (.doctype content) := by
  intro tree rest _ _
  have hHtml : Node.htmlIn false (.doctype content) ++ rest = .scalar '<' :: .scalar '!'
      :: (("DOCTYPE" : Text) ++ (.scalar ' ' :: content ++ .scalar '>' :: rest)) := by
    rw [show Node.htmlIn false (.doctype content)
      = ("<!DOCTYPE " : Text) ++ content ++ [.scalar '>'] from rfl, List.append_assoc,
      List.append_assoc]
    rfl
  have hKeyword : Text.lower ("DOCTYPE" : Text) = ("doctype" : Text) := by decide +kernel
  have hTake : (("DOCTYPE" : Text) ++ (.scalar ' ' :: content ++ .scalar '>' :: rest)).take 7
      = ("DOCTYPE" : Text) := rfl
  have hDrop : (("DOCTYPE" : Text) ++ (.scalar ' ' :: content ++ .scalar '>' :: rest)).drop 7
      = .scalar ' ' :: content ++ .scalar '>' :: rest := rfl
  have hSpace : .scalar '>' ∉ CodePoint.scalar ' ' :: content := by
    simpa using hAngle
  have hConstruct : readConstruct (.scalar '!' :: (("DOCTYPE" : Text) ++
      (.scalar ' ' :: content ++ .scalar '>' :: rest))) =
        .ok (.finished [.doctype content] rest) := by
    have hDeclaration : readConstruct (.scalar '!' :: (("DOCTYPE" : Text) ++
        (.scalar ' ' :: content ++ .scalar '>' :: rest))) = .ok (readDeclaration
          (("DOCTYPE" : Text) ++ (.scalar ' ' :: content ++ .scalar '>' :: rest))) := rfl
    rw [hDeclaration, readDeclaration, hTake, hDrop, if_pos hKeyword, upToAngle,
      Text.cut_append hSpace]
    simp only [Text.trim_cons_of_isBlank (show (CodePoint.scalar ' ').isBlank = true by decide),
      hTrim]
  rw [hHtml, readInto_construct hConstruct]
  rfl

variable {tag : Text} {attrs : List (Text × Text)}

/-- A name and attributes as they stand in the start tag of an element. -/
structure IsStartTag (tag : Text) (attrs : List (Text × Text)) : Prop where
  strict : IsStrictTagName tag
  distinct : (Table.names attrs).Nodup
  written : ∀ attr ∈ attrs, IsAttrName attr.1

/-- The start tag of an element, where it closes no other. -/
theorem openTag_eq {tree : OpenTree} (hNames : (Table.names attrs).Nodup)
    (hNests : ∀ inner ∈ tree.stack.head?, closedBy inner.tag tag = false) :
    tree.openTag tag (attrs.map fun attr => (attr.1, some attr.2)) =
      if isVoid tag then tree.add (.element tag attrs [])
      else ⟨⟨tag, attrs, []⟩ :: tree.stack, tree.outside⟩ := by
  have hAttrs : Table.firstOfEach ((attrs.map fun attr => (attr.1, some attr.2)).map
      fun attr => (attr.1, attr.2.getD [])) = attrs := by
    rw [List.map_map]
    exact (congrArg _ (List.map_id attrs)).trans (Table.firstOfEach_eq_self hNames)
  have hClosed : tree.closeImplied tag = tree := by
    obtain ⟨stack, outside⟩ := tree
    cases stack with
    | nil => rfl
    | cons inner outer =>
      rw [OpenTree.closeImplied, List.takeWhile_cons_of_neg (by simp [hNests inner rfl])]
      rfl
  rw [OpenTree.openTag, hClosed]
  simp only [hAttrs]
  rfl

/-- The event of a start tag that is written. -/
def openingEvent (tag : Text) (attrs : List (Text × Text)) : Event :=
  .startTag tag (attrs.map fun attr => (attr.1.lower, some attr.2)) false

/-- A start tag that is written. -/
theorem readInto_startTagHtml (hTag : IsTagName tag) (hNames : ∀ attr ∈ attrs, IsWrittenName attr.1)
    (rest : Text) (tree : OpenTree) :
    readInto none (startTagHtml tag attrs ++ rest) tree =
      readInto (if isRawText tag then some tag else none) rest
        (tree.take (openingEvent tag attrs)) := by
  have hHtml : startTagHtml tag attrs ++ rest
      = .scalar '<' :: (tag ++ (attrsHtml attrs ++ .scalar '>' :: rest)) := by
    simp [startTagHtml]
  rw [hHtml, readInto_construct (readConstruct_startTag hTag hNames rest)]
  rfl

/-- A start tag that is written, where it closes no other. -/
theorem readInto_startTag (hStart : IsStartTag tag attrs) (rest : Text) {tree : OpenTree}
    (hNests : ∀ inner ∈ tree.stack.head?, closedBy inner.tag tag = false) :
    readInto none (startTagHtml tag attrs ++ rest) tree =
      readInto (if isRawText tag then some tag else none) rest
        (if isVoid tag then tree.add (.element tag attrs [])
          else ⟨⟨tag, attrs, []⟩ :: tree.stack, tree.outside⟩) := by
  have hSmall : (attrs.map fun attr => (attr.1.lower, some attr.2)) =
      attrs.map fun attr => (attr.1, some attr.2) :=
    List.map_congr_left fun attr hAttr => by rw [(hStart.written attr hAttr).small]
  rw [readInto_startTagHtml hStart.strict.toIsTagName
      (fun attr hAttr => (hStart.written attr hAttr).toIsWrittenName), openingEvent, hSmall,
    ← openTag_eq hStart.distinct hNests]
  rfl

/-- An end tag that is written. -/
theorem readInto_endTagHtml (hTag : IsTagName tag) (rest : Text) (tree : OpenTree) :
    readInto none (endTagHtml tag ++ rest) tree =
      readInto none rest ((endTagEvents tag).foldl OpenTree.take tree) := by
  have hHtml : endTagHtml tag ++ rest
      = .scalar '<' :: .scalar '/' :: (tag ++ .scalar '>' :: rest) := by
    rw [endTagHtml, List.append_assoc, List.append_assoc]
    rfl
  have hOutside : rawElementAfter (endTagEvents tag) = none := by
    rcases endTagEvents_cases tag with hNone | ⟨name, hEnd⟩ | hComment
    · rw [hNone]; rfl
    · rw [hEnd]; rfl
    · rw [hComment]; rfl
  rw [hHtml, readInto_construct (readConstruct_endTag hTag rest), hOutside]

/-- An end tag that is written and spelled in letters. -/
theorem readInto_endTag (hTag : IsStrictTagName tag) (rest : Text) (tree : OpenTree) :
    readInto none (endTagHtml tag ++ rest) tree = readInto none rest (tree.closeTag tag) := by
  rw [readInto_endTagHtml hTag.toIsTagName, endTagEvents_of_strict hTag]
  rfl

theorem readsBack_void (hStart : IsStartTag tag attrs) (hVoid : isVoid tag = true) :
    ReadsBack (.element tag attrs []) := by
  intro tree rest _ hNests
  have hNotRaw := OpenTree.isRawText_of_isVoid hVoid
  have hHtml : Node.htmlIn false (.element tag attrs []) = startTagHtml tag attrs := by
    rw [Node.element, Node.htmlIn, if_pos hVoid]
  rw [hHtml, readInto_startTag hStart rest hNests, hNotRaw, if_neg (by decide), if_pos hVoid]

/-- An element whose children read back. -/
theorem readsBack_element (hStart : IsStartTag tag attrs) (hVoid : isVoid tag = false)
    (hRaw : isRawText tag = false) {children : List Node}
    (hBack : ∀ child ∈ children, ReadsBack child) (hShape : ∀ child ∈ children, child.WellFormed)
    (hSeparate : Separate children) (hInside : ∀ child ∈ children, closedBy tag child.tag = false) :
    ReadsBack (.element tag attrs children) := by
  intro tree rest _ hNests
  have hHtml : Node.htmlIn false (.element tag attrs children) ++ rest
      = startTagHtml tag attrs
        ++ (Node.htmlOfAll false children ++ (endTagHtml tag ++ rest)) := by
    rw [Node.element, Node.htmlIn, if_neg (by simp [hVoid]), hRaw]
    simp only [List.append_assoc]
  have hEnd : BeginsApart (endTagHtml tag ++ rest) := by
    intro c hc
    cases hc
    rfl
  have hContent : (⟨tag, attrs, children.foldl attach []⟩ : OpenElement).node
      = .element tag attrs children := by
    rw [foldl_attach hSeparate (fun _ _ _ hm => by cases hm), OpenElement.node, List.append_nil,
      List.reverse_reverse]
  rw [hHtml, readInto_startTag hStart _ hNests, hRaw, if_neg (by decide),
    if_neg (by simp [hVoid]), readInto_htmlOfAll hBack hShape hSeparate hEnd, foldl_add_cons,
    readInto_endTag hStart.strict, OpenTree.closeTag_cons ⟨tag, attrs, _⟩, hContent]
  intro child hChild inner hInner
  cases hInner
  exact hInside child hChild

/-! ## 4. Raw text -/

/-- Text with end tags that are passed over is read as events that make it the
content of its element. -/
theorem exists_readInto_passedOver (hName : IsRawName tag) {t : Text} (h : PassedOver tag t) :
    ∃ events : List Event,
      (∀ (tree : OpenTree) (more : Text), readInto (some tag) (t ++ more) tree =
        readInto (some tag) more (events.foldl OpenTree.take tree)) ∧
      ∀ (attrs : Table Text) (outer : List OpenElement) (outside : List Node),
        events.foldl OpenTree.take ⟨⟨tag, attrs, textNodes []⟩ :: outer, outside⟩ =
          ⟨⟨tag, attrs, textNodes t⟩ :: outer, outside⟩ := by
  induction h with
  | nil => exact ⟨[], fun _ _ => rfl, fun _ _ _ => rfl⟩
  | @snoc t before endTag _ hBefore hEnd hSpelling ih =>
    obtain ⟨beginning, hBegin, _⟩ := rawEnd_eq hName hEnd
    obtain ⟨events, hRead, hTree⟩ := ih
    have hEvents : [Event.text endTag] = textEvents endTag := by
      rw [hBegin]
      rfl
    refine ⟨events ++ (textEvents before ++ textEvents endTag), fun tree more => ?_,
      fun attrs outer outside => ?_⟩
    · have hNe : before ++ (endTag ++ more) ≠ [] := by simp [hBegin]
      rw [List.append_assoc, hRead, List.append_assoc, readInto_rawText hNe,
        stepInRawText_append hName hBefore hEnd, if_neg (by simp [hSpelling]), hEvents]
      simp only [List.foldl_append]
    · rw [List.foldl_append, hTree, List.foldl_append, OpenTree.foldl_take_textEvents,
        OpenTree.foldl_take_textEvents, List.append_assoc]

theorem rawEnd_endTagHtml (h : isRawText tag = true) :
    rawEnd tag (endTagHtml tag) = some []
      ∧ (nameInEndTag (endTagHtml tag)).all CodePoint.isAsciiLetter = true := by
  have hAll : ∀ tag ∈ rawTextTags, rawEnd tag (endTagHtml tag) = some []
      ∧ (nameInEndTag (endTagHtml tag)).all CodePoint.isAsciiLetter = true := by decide +kernel
  exact hAll tag (List.contains_iff_mem.1 h)

/-- The content of a raw text element and its end tag are read as events that
add the element. -/
theorem exists_readInto_rawContent (hRaw : isRawText tag = true) {t : Text}
    (h : IsRawContent tag t) :
    ∃ events : List Event,
      (∀ (tree : OpenTree) (rest : Text), readInto (some tag) (t ++ (endTagHtml tag ++ rest)) tree =
        readInto none rest (events.foldl OpenTree.take tree)) ∧
      ∀ (attrs : Table Text) (outer : List OpenElement) (outside : List Node),
        events.foldl OpenTree.take ⟨⟨tag, attrs, []⟩ :: outer, outside⟩ =
          OpenTree.add ⟨outer, outside⟩ (.element tag attrs (textNodes t)) := by
  obtain ⟨passed, last, rfl, hPassed, hLast⟩ := h
  have hName := isRawName_of_isRawText hRaw
  obtain ⟨hEnd, hSpelling⟩ := rawEnd_endTagHtml hRaw
  obtain ⟨events, hRead, hTree⟩ := exists_readInto_passedOver hName hPassed
  refine ⟨events ++ (textEvents last ++ [.endTag tag]), fun tree rest => ?_,
    fun attrs outer outside => ?_⟩
  · have hNe : last ++ (endTagHtml tag ++ rest) ≠ [] := by simp [endTagHtml]
    rw [List.append_assoc, hRead, readInto_rawText hNe, stepInRawText_append hName hLast hEnd,
      if_pos hSpelling]
    simp only [List.foldl_append]
  · rw [List.foldl_append, show ([] : List Node) = textNodes [] from rfl, hTree, List.foldl_append,
      OpenTree.foldl_take_textEvents, List.foldl_cons, List.foldl_nil, OpenTree.take,
      OpenTree.closeTag_cons ⟨tag, attrs, textNodes (passed ++ last)⟩, OpenElement.node,
      textNodes_reverse]

theorem htmlOfAll_textNodes (t : Text) : Node.htmlOfAll true (textNodes t) = t := by
  unfold textNodes
  split
  · next hNil => exact hNil.symm
  · exact List.append_nil _

theorem readsBack_rawText (hStart : IsStartTag tag attrs) (hRaw : isRawText tag = true)
    {t : Text} (h : IsRawContent tag t) : ReadsBack (.element tag attrs (textNodes t)) := by
  intro tree rest _ hNests
  have hVoid := OpenTree.isVoid_of_isRawText hRaw
  obtain ⟨events, hRead, hTree⟩ := exists_readInto_rawContent hRaw h
  have hHtml : Node.htmlIn false (.element tag attrs (textNodes t)) ++ rest
      = startTagHtml tag attrs ++ (t ++ (endTagHtml tag ++ rest)) := by
    rw [Node.element, Node.htmlIn, if_neg (by simp [hVoid]), hRaw, htmlOfAll_textNodes]
    simp only [List.append_assoc]
  rw [hHtml, readInto_startTag hStart _ hNests, hRaw, if_pos rfl, if_neg (by simp [hVoid]), hRead,
    hTree]

/-! ## 5. Trees -/

/-- The shape of a node that reads back. -/
def Node.Intact (node : Node) : Prop :=
  node.WellFormed ∧ node.Lexical ∧ (node.isElement = true → node.tag.all inStrictName = true)

/-- All nodes of an intact tree read back. -/
theorem readsBack_of_intact (node : Node) (h : Everywhere Node.Intact [node]) :
    ReadsBack node := by
  induction node using Node.induct with
  | step label attrs children ih =>
    obtain ⟨⟨hShape, hLexical, hStrict⟩, hBelow⟩ := everywhere_singleton.1 h
    have hChildren : ∀ child ∈ children, ReadsBack child := fun child hChild =>
      ih child hChild (everywhere_singleton.2 (hBelow.of_mem hChild))
    cases label with
    | element tag =>
      obtain ⟨hNames, hVoid, hSeparate, hInside⟩ := hShape
      obtain ⟨hTag, hAttrs, hRaw⟩ := hLexical
      have hStart : IsStartTag tag attrs :=
        ⟨⟨hTag, List.all_eq_true.1 (hStrict rfl)⟩, hNames, hAttrs⟩
      cases hIsVoid : isVoid tag with
      | true =>
        cases hVoid hIsVoid
        exact readsBack_void hStart hIsVoid
      | false =>
        cases hIsRaw : isRawText tag with
        | true =>
          obtain ⟨t, hContent, rfl⟩ := hRaw hIsRaw
          exact readsBack_rawText hStart hIsRaw hContent
        | false =>
          exact readsBack_element hStart hIsVoid hIsRaw hChildren
            (fun child hChild => (hBelow.of_mem hChild).1.1) hSeparate hInside
    | text content =>
      obtain ⟨hNe, rfl, rfl⟩ := hShape
      exact readsBack_text hNe
    | comment content =>
      obtain ⟨rfl, rfl⟩ := hShape
      exact readsBack_comment hLexical
    | doctype content =>
      obtain ⟨rfl, rfl⟩ := hShape
      exact readsBack_doctype hLexical.1 hLexical.2
    | fragment => exact hShape.elim

/-- A row of intact trees reads back as a whole. -/
theorem parseMarkup_htmlOfAll {nodes : List Node} (h : Everywhere Node.Intact nodes)
    (hSeparate : Separate nodes) :
    parseMarkup (Node.htmlOfAll false nodes) = .ok (.fragment nodes) := by
  have hNothing : BeginsApart [] := fun c hc => by cases hc
  have hRead : readInto none (Node.htmlOfAll false nodes ++ []) .empty =
      readInto none [] (nodes.foldl OpenTree.add .empty) :=
    readInto_htmlOfAll
      (fun node hNode => readsBack_of_intact node (everywhere_singleton.2 (h.of_mem hNode)))
      (fun node hNode => (h.of_mem hNode).1.1) hSeparate hNothing
      (fun _ _ inner hInner => by cases hInner)
  rw [List.append_nil, readInto_nil, OpenTree.empty, foldl_add_nil,
    foldl_attach hSeparate (fun _ _ _ hm => by cases hm), List.append_nil] at hRead
  rw [parseMarkup_eq, OpenTree.empty, hRead]
  simp only [Except.map, OpenTree.finish, List.length_nil, OpenTree.close, List.reverse_reverse]

/-- The tree of a text, if the names of its elements are such as an end tag
can have, is the tree of its own HTML. That much is needed: a start tag is read
with other names as well, but its end tag is then written in vain, or is read as
a comment. -/
theorem parseMarkup_toHtml {markup : Text} {template : Node}
    (h : parseMarkup markup = .ok template)
    (hTags : ∀ node ∈ template.subtrees, node.isElement = true →
      node.tag.all inStrictName = true) :
    parseMarkup template.toHtml = .ok template := by
  have hLexical := lexical_parseMarkup h
  obtain ⟨hShape, hSeparate⟩ := wellFormed_parseMarkup h
  obtain ⟨events, _, rfl⟩ := exists_of_map_eq_ok h
  have hIntact : Everywhere Node.Intact (Node.ofEvents events).children := fun node hNode =>
    ⟨hShape node hNode, hLexical node hNode, hTags node (by
      rw [Node.subtrees_eq]
      exact List.mem_cons_of_mem _ hNode)⟩
  exact parseMarkup_htmlOfAll hIntact hSeparate

/-- Paragraphs of which one ends the other, an end tag of nothing, and raw
text with a `<`. -/
theorem parseMarkup_toHtml_paragraphs :
    let template : Node := .fragment [.element "p" [("id", "x")] [.text "a & b"],
      .element "p" [] [.element "br" [] [], .text "c"], .element "script" [] [.text "1 < 2"]]
    parseMarkup "<P id=x>a &amp; b<p><br></q>c</p><script>1 < 2</SCRIPT>" = .ok template
      ∧ (∀ node ∈ template.subtrees, node.isElement = true →
        node.tag.all inStrictName = true)
      ∧ parseMarkup template.toHtml = .ok template := by
  intro template
  have hRead : parseMarkup "<P id=x>a &amp; b<p><br></q>c</p><script>1 < 2</SCRIPT>"
      = .ok template := by decide +kernel
  have hTags : ∀ node ∈ template.subtrees, node.isElement = true →
      node.tag.all inStrictName = true := by decide +kernel
  exact ⟨hRead, hTags, parseMarkup_toHtml hRead hTags⟩

end TreeTemplate
