/-
TreeTemplate.Proofs.Markup.Opening — the element with which a written text begins.

The HTML of a node that was read can be read again, whatever names its
elements have: the end tag of an odd name may end nothing, or be read as a
comment, but reading goes on. So the tree may be another; but what was written
first is first in it, and an element is read with its tag and its attributes,
their names in small letters and of each name the first.

* `ReadsAs` — a node whose HTML is read as a row of events.
* `exists_readsAs` — all nodes of a tree that was read.
* `parseMarkup_opening` — the first node of the tree that is read again.
-/
import TreeTemplate.Proofs.Markup.Order
import TreeTemplate.Proofs.Markup.RoundTrip

namespace TreeTemplate

/-! ## 1. Nodes as rows of events -/

/-- Whether the HTML of a node is read as a row of events, whatever stands
before and behind it. -/
def ReadsAs (node : Node) (events : List Event) : Prop :=
  ∀ (tree : OpenTree) (rest : Text), (node.isText = true → BeginsApart rest) →
    readInto none (node.htmlIn false ++ rest) tree =
      readInto none rest (events.foldl OpenTree.take tree)

/-- What reads back and ends no element is read as one event. -/
theorem ReadsBack.readsAs {node : Node} (h : ReadsBack node) (hTag : node.tag = [])
    {event : Event} (hTake : ∀ tree : OpenTree, tree.take event = tree.add node) :
    ReadsAs node [event] := by
  intro tree rest hRest
  have hNests : ∀ inner ∈ tree.stack.head?, closedBy inner.tag node.tag = false :=
    fun inner _ => by rw [hTag, closedBy_nil]
  rw [h tree rest hRest hNests, List.foldl_cons, List.foldl_nil, hTake]

theorem readsAs_text {content : Text} (h : content ≠ []) :
    ReadsAs (.text content) [.text content] := by
  refine (readsBack_text h).readsAs rfl fun tree => ?_
  obtain ⟨c, rest, rfl⟩ := List.exists_cons_of_ne_nil h
  rfl

/-- A row of nodes that are read as events. -/
theorem exists_readInto_htmlOfAll {nodes : List Node}
    (hNodes : ∀ node ∈ nodes, ∃ events, ReadsAs node events)
    (hShape : ∀ node ∈ nodes, node.WellFormed) (hSeparate : Separate nodes) :
    ∃ events : List Event, ∀ (tree : OpenTree) (rest : Text), BeginsApart rest →
      readInto none (Node.htmlOfAll false nodes ++ rest) tree =
        readInto none rest (events.foldl OpenTree.take tree) := by
  induction nodes with
  | nil => exact ⟨[], fun _ _ _ => rfl⟩
  | cons node nodes ih =>
    obtain ⟨⟨events, hNode⟩, hNodes⟩ := List.forall_mem_cons.1 hNodes
    obtain ⟨_, hShape⟩ := List.forall_mem_cons.1 hShape
    obtain ⟨others, hOthers⟩ := ih hNodes hShape hSeparate.tail
    refine ⟨events ++ others, fun tree rest hRest => ?_⟩
    have hApart (hText : node.isText = true) :
        BeginsApart (Node.htmlOfAll false nodes ++ rest) :=
      beginsApart_htmlOfAll hShape hSeparate hText false hRest
    rw [Node.htmlOfAll, List.append_assoc, hNode tree _ hApart, hOthers _ rest hRest,
      List.foldl_append]

/-! ## 2. Elements -/

variable {tag : Text} {attrs : List (Text × Text)} {children : List Node}

/-- An element is read as its start tag, and more. -/
theorem exists_readsAs_element (hTag : IsTagName tag)
    (hAttrs : ∀ attr ∈ attrs, IsWrittenName attr.1)
    (hRaw : isRawText tag = true → ∃ t, IsRawContent tag t ∧ children = textNodes t)
    (hChildren : ∀ child ∈ children, ∃ events, ReadsAs child events)
    (hShape : ∀ child ∈ children, child.WellFormed) (hSeparate : Separate children) :
    ∃ events, ReadsAs (.element tag attrs children) (openingEvent tag attrs :: events) := by
  have hOpen := readInto_startTagHtml hTag hAttrs
  cases hIsVoid : isVoid tag with
  | true =>
    have hNotRaw := OpenTree.isRawText_of_isVoid hIsVoid
    refine ⟨[], fun tree rest _ => ?_⟩
    rw [Node.element, Node.htmlIn, if_pos hIsVoid, hOpen, hNotRaw]
    rfl
  | false =>
    have hHtml (rest : Text) : Node.htmlIn false (.element tag attrs children) ++ rest
        = startTagHtml tag attrs
          ++ (Node.htmlOfAll (isRawText tag) children ++ (endTagHtml tag ++ rest)) := by
      rw [Node.element, Node.htmlIn, if_neg (by simp [hIsVoid])]
      simp only [List.append_assoc]
    cases hIsRaw : isRawText tag with
    | true =>
      obtain ⟨t, hContent, rfl⟩ := hRaw hIsRaw
      obtain ⟨events, hEvents, _⟩ := exists_readInto_rawContent hIsRaw hContent
      refine ⟨events, fun tree rest _ => ?_⟩
      rw [hHtml, hOpen, hIsRaw, if_pos rfl, htmlOfAll_textNodes, hEvents]
      rfl
    | false =>
      obtain ⟨events, hEvents⟩ := exists_readInto_htmlOfAll hChildren hShape hSeparate
      refine ⟨events ++ endTagEvents tag, fun tree rest _ => ?_⟩
      have hEnd : BeginsApart (endTagHtml tag ++ rest) := by
        intro c hc
        cases hc
        rfl
      rw [hHtml, hOpen, hIsRaw, if_neg (by decide), hEvents _ _ hEnd, readInto_endTagHtml hTag,
        List.foldl_cons, List.foldl_append]

/-! ## 3. Trees -/

/-- The shape of a node that was read. -/
def Node.Regular (node : Node) : Prop := node.WellFormed ∧ node.Lexical

/-- A node that was read is read as some events when it is written. -/
theorem exists_readsAs {nodes : List Node} (h : Everywhere Node.Regular nodes) :
    ∀ node ∈ nodes, node.WellFormed ∧ ∃ events, ReadsAs node events := by
  refine h.induct fun label attrs children hHere ih => ⟨hHere.1, ?_⟩
  obtain ⟨hShape, hLexical⟩ := hHere
  cases label with
  | element tag =>
    obtain ⟨_, _, hSeparate, _⟩ := hShape
    obtain ⟨hTag, hAttrs, hRaw⟩ := hLexical
    obtain ⟨events, hEvents⟩ := exists_readsAs_element hTag
      (fun attr hAttr => (hAttrs attr hAttr).toIsWrittenName) hRaw
      (fun child hChild => (ih child hChild).2) (fun child hChild => (ih child hChild).1) hSeparate
    exact ⟨_, hEvents⟩
  | text content =>
    obtain ⟨hNe, rfl, rfl⟩ := hShape
    exact ⟨_, readsAs_text hNe⟩
  | comment content =>
    obtain ⟨rfl, rfl⟩ := hShape
    exact ⟨[.comment content], (readsBack_comment hLexical).readsAs rfl fun _ => rfl⟩
  | doctype content =>
    obtain ⟨rfl, rfl⟩ := hShape
    exact ⟨[.doctype content],
      (readsBack_doctype hLexical.1 hLexical.2).readsAs rfl fun _ => rfl⟩
  | fragment => exact hShape.elim

/-- The first node of the tree of events that begin with a start tag. -/
theorem exists_ofEvents_eq (tag : Text) (attrs : List (Text × Option Text)) (closesItself : Bool)
    (events : List Event) :
    ∃ content rest, Node.ofEvents (.startTag tag attrs closesItself :: events) =
      .fragment (.element tag (firstValues attrs) content :: rest) := by
  obtain ⟨hOrder, _⟩ := ofEvents_order (.startTag tag attrs closesItself :: events)
  obtain ⟨hShape, _⟩ := wellFormed_ofEvents (.startTag tag attrs closesItself :: events)
  obtain ⟨nodes, hNodes⟩ :
      ∃ nodes, Node.ofEvents (.startTag tag attrs closesItself :: events) = .fragment nodes :=
    ⟨_, rfl⟩
  rw [hNodes] at hOrder hShape ⊢
  rw [List.filterMap_cons, Event.head?] at hOrder
  obtain ⟨first, rest, rfl⟩ : ∃ first rest, nodes = first :: rest := by
    refine List.exists_cons_of_ne_nil ?_
    rintro rfl
    cases hOrder
  obtain ⟨label, attrs', content⟩ := first
  have hHeads : headsOf (.mk label attrs' content :: rest) =
      (label, attrs') :: (headsOf content ++ headsOf rest) := by
    rw [← List.singleton_append, headsOf_append, headsOf_singleton]
    rfl
  rw [Node.fragment, Node.children, hHeads] at hOrder
  cases label with
  | text t =>
    -- A tree has no empty text, so a text in front would show.
    have hNone := congrArg Prod.fst hOrder
    obtain ⟨hNe, _⟩ := (everywhere_cons.1 hShape).1
    exact absurd (List.append_eq_nil_iff.1 hNone).1 hNe
  | element other =>
    cases congrArg Prod.fst (List.cons.inj (congrArg Prod.snd hOrder)).1
    exact ⟨content, rest, rfl⟩
  | _ => cases congrArg Prod.fst (List.cons.inj (congrArg Prod.snd hOrder)).1

/-- The attributes with their names in small letters. -/
def Table.lowered (attrs : Table Text) : List (Text × Text) :=
  attrs.map fun attr => (attr.1.lower, attr.2)

/-- The element that is written first is read as the first node, with the
attributes it is written with. -/
theorem parseMarkup_opening (h : Everywhere Node.Regular [.element tag attrs children])
    {others : Table Text} (hOthers : ∀ attr ∈ others, IsWrittenName attr.1) :
    ∃ content rest, parseMarkup (Node.toHtml (.element tag others children)) =
      .ok (.fragment (.element tag (Table.firstOfEach others.lowered) content :: rest)) := by
  obtain ⟨⟨⟨_, _, hSeparate, _⟩, hTag, _, hRaw⟩, hBelow⟩ := everywhere_singleton.1 h
  have hChildren := exists_readsAs hBelow
  obtain ⟨events, hEvents⟩ := exists_readsAs_element hTag hOthers hRaw
    (fun child hChild => (hChildren child hChild).2)
    (fun child hChild => (hChildren child hChild).1) hSeparate
  obtain ⟨content, rest, hTree⟩ := exists_ofEvents_eq tag
    (others.map fun attr => (attr.1.lower, some attr.2)) false events
  refine ⟨content, rest, ?_⟩
  have hRead := hEvents .empty [] fun hText => by cases hText
  rw [List.append_nil, readInto_nil] at hRead
  have hAttrs : firstValues (others.map fun attr => (attr.1.lower, some attr.2)) =
      Table.firstOfEach others.lowered := by
    rw [← firstOfEach_eq_firstValues, List.map_map]
    rfl
  rw [parseMarkup_eq, Node.toHtml, hRead, ← hAttrs, ← hTree]
  rfl

end TreeTemplate
