/-
TreeTemplate.Proofs.Markup.WellFormed — the shape of trees made of events.

Whatever the events are, the tree has no text beside a text and no empty
text, no fragment inside, nothing in elements without content, no name
twice among the attributes of an element, and no element directly inside
one whose end it implies.

* `Node.WellFormed` — the shape of one node.
* `wellFormed_ofEvents`, `wellFormed_parseMarkup` — all nodes of the tree of
  a row of events, or of a text, have it.
* `Node.TidyTree` — the same of a whole tree, said without the builder;
  `tidyTree_ofEvents_and_parseMarkup` is the main statement.
-/
import TreeTemplate.Markup.Source
import TreeTemplate.Proofs.Markup.Building
import TreeTemplate.Proofs.Outcome
import TreeTemplate.Proofs.Table

namespace TreeTemplate

/-! ## 1. The shape of a node -/

/-- Whether no two texts stand beside each other. -/
def Separate (nodes : List Node) : Prop :=
  nodes.IsChain fun a b => a.isText = true → b.isText = false

/-- The shape of one node of a tree: nothing is said of the nodes below its
children. -/
def Node.WellFormed : Node → Prop
  | mk (.element tag) attrs children =>
    (Table.names attrs).Nodup ∧ (isVoid tag = true → children = []) ∧ Separate children
      ∧ ∀ child ∈ children, closedBy tag child.tag = false
  | mk (.text content) attrs children => content ≠ [] ∧ attrs = [] ∧ children = []
  | mk (.comment _) attrs children => attrs = [] ∧ children = []
  | mk (.doctype _) attrs children => attrs = [] ∧ children = []
  | mk .fragment _ _ => False

theorem separate_reverse {nodes : List Node} (h : Separate nodes) : Separate nodes.reverse := by
  rw [Separate, List.isChain_reverse]
  refine h.imp fun a b hab hb => ?_
  cases ha : a.isText with
  | false => rfl
  | true => rw [hab ha] at hb; cases hb

/-- Only elements can be implied ends. -/
theorem closedBy_nil (tag : Text) : closedBy tag [] = false := by
  have hEntries : ∀ entry ∈ impliedEnds, entry.2.contains ([] : Text) = false := by decide
  unfold closedBy
  split
  · next closers hFind => exact hEntries _ (List.mem_of_find?_eq_some hFind)
  · rfl

theorem Node.tag_eq_nil {node : Node} (h : node.isElement = false) : node.tag = [] := by
  obtain ⟨label, attrs, children⟩ := node
  cases label <;> first | rfl | cases h

/-! ## 2. The rule -/

theorem separate_attach {content : List Node} {n : Node} (h : Separate content) :
    Separate (attach content n) := by
  unfold attach
  split
  · next before =>
    cases before with
    | nil => exact .singleton _
    | cons next before =>
      obtain ⟨hNext, hRest⟩ := List.isChain_cons_cons.1 h
      exact .cons_cons hNext hRest
  · next hNot =>
    cases content with
    | nil => exact .singleton _
    | cons next content =>
      refine .cons_cons (fun hText => ?_) h
      obtain ⟨label, attrs, children⟩ := n
      obtain ⟨label', attrs', children'⟩ := next
      cases label' with
      | text before =>
        cases label with
        | text content => exact absurd rfl (hNot _ _ _ _ _ _ _ rfl)
        | _ => cases hText
      | _ => rfl

theorem mem_attach {content : List Node} {n m : Node} (h : m ∈ attach content n) :
    m ∈ content ∨ m = n ∨ m.isElement = false := by
  unfold attach at h
  split at h
  · next before =>
    rcases List.mem_cons.1 h with rfl | h
    · exact .inr (.inr rfl)
    · exact .inl (List.mem_cons_of_mem _ h)
  · rcases List.mem_cons.1 h with rfl | h
    · exact .inr (.inl rfl)
    · exact .inl h

/-- What is kept of the shape of nodes while a tree is built. -/
def wellFormedRule : TreeRule where
  node := Node.WellFormed
  frame element := element.attrs.names.Nodup ∧ isVoid element.tag = false ∧
    Separate element.content ∧ ∀ child ∈ element.content, closedBy element.tag child.tag = false
  root := Separate
  nests element tag := closedBy element.tag tag = false
  joined s t hs _ := ⟨by simp [hs.1], rfl, rfl⟩
  bare t _ _ h := ⟨h.1, rfl, rfl⟩
  closed element h := by
    obtain ⟨hNames, hVoid, hSeparate, hNested⟩ := h
    exact ⟨hNames, fun hIs => absurd (hIs.symm.trans hVoid) (by decide),
      separate_reverse hSeparate, fun child hChild => hNested child (List.mem_reverse.1 hChild)⟩
  attached element n h _ hNests := by
    obtain ⟨hNames, hVoid, hSeparate, hNested⟩ := h
    refine ⟨hNames, hVoid, separate_attach hSeparate, fun child hChild => ?_⟩
    have hNone {m : Node} (hm : m.isElement = false) : closedBy element.tag m.tag = false := by
      rw [Node.tag_eq_nil hm, closedBy_nil]
    rcases mem_attach hChild with hOld | rfl | hText
    · exact hNested child hOld
    · cases hElement : child.isElement with
      | true => exact hNests hElement
      | false => exact hNone hElement
    · exact hNone hText
  outside _ _ h _ := separate_attach h
  nested _ _ h := h

theorem wellFormedRule_admits (event : Event) : wellFormedRule.Admits event := by
  cases event with
  | startTag tag attrs closesItself =>
    simp only [TreeRule.Admits]
    split
    · exact ⟨Table.nodup_firstOfEach _, fun _ => rfl, .nil, List.forall_mem_nil _⟩
    · next hVoid =>
      exact ⟨Table.nodup_firstOfEach _, by simpa using hVoid, .nil, List.forall_mem_nil _⟩
  | endTag tag => exact trivial
  | text content => exact fun hNe => ⟨hNe, rfl, rfl⟩
  | comment content => exact ⟨rfl, rfl⟩
  | doctype content => exact ⟨rfl, rfl⟩

/-- The tree of a row of events is a fragment of nodes that are well formed
at every depth, without texts beside each other. -/
theorem wellFormed_ofEvents (events : List Event) :
    Everywhere Node.WellFormed (Node.ofEvents events).children
      ∧ Separate (Node.ofEvents events).children := by
  have hEmpty : OpenTree.empty.Follows wellFormedRule := OpenTree.follows_empty .nil
  have hTree := hEmpty.foldl_take
    fun event (_ : event ∈ events) => wellFormedRule_admits event
  obtain ⟨hNodes, content, hContent, hChildren⟩ := hTree.finish
  exact ⟨hNodes, by rw [Node.ofEvents, hChildren]; exact separate_reverse hContent⟩

/-- The same for the tree of a text. -/
theorem wellFormed_parseMarkup {t : Text} {template : Node} (h : parseMarkup t = .ok template) :
    Everywhere Node.WellFormed template.children ∧ Separate template.children := by
  obtain ⟨events, _, rfl⟩ := exists_of_map_eq_ok h
  exact wellFormed_ofEvents events

/-! ## 3. Whole trees -/

/-- What can be seen of the shape of a node in a tree that is read. No
element stands directly inside one whose end its start tag implies. -/
structure Node.Tidy (node : Node) : Prop where
  separate : Separate node.children
  text : node.label ≠ .text []
  void : isVoid node.tag = true → node.children = []
  names : node.attrs.names.Nodup
  nested : ∀ child ∈ node.children, ∀ implied ∈ impliedEnds,
    node.tag = implied.1 → child.tag ∉ implied.2

/-- A tree of tidy nodes: the root is a fragment, and no other node is. -/
structure Node.TidyTree (root : Node) : Prop where
  isFragment : root.label = .fragment
  fragment : ∀ node ∈ subtreesOfAll root.children, node.label ≠ .fragment
  tidy : ∀ node ∈ root.subtrees, node.Tidy

/-- Each tag has one row among the implied ends. -/
theorem not_mem_of_closedBy {openTag startTag : Text} (h : closedBy openTag startTag = false) :
    ∀ implied ∈ impliedEnds, openTag = implied.1 → startTag ∉ implied.2 := by
  have hRows : ∀ implied ∈ impliedEnds,
      impliedEnds.find? (fun entry => entry.1 = implied.1) = some implied := by decide
  rintro implied hImplied rfl hMem
  rw [closedBy, hRows implied hImplied] at h
  simp [hMem] at h

theorem tidy_leaf {label : Label} (h : label ≠ .text []) : (Node.mk label [] []).Tidy where
  separate := .nil
  text := h
  void _ := rfl
  names := List.nodup_nil
  nested := by simp [Node.children]

theorem tidy_fragment {children : List Node} (h : Separate children) :
    (Node.fragment children).Tidy where
  separate := h
  text := by simp [Node.fragment, Node.label]
  void hVoid := absurd hVoid (show ¬ isVoid [] = true by decide)
  names := List.nodup_nil
  nested _ _ implied hImplied hTag := by
    have hTags : ∀ implied ∈ impliedEnds, implied.1 ≠ [] := by decide
    exact absurd hTag.symm (hTags implied hImplied)

theorem Node.WellFormed.tidy {node : Node} (h : node.WellFormed) : node.Tidy := by
  obtain ⟨label, attrs, children⟩ := node
  cases label with
  | element tag =>
    obtain ⟨hNames, hVoid, hSeparate, hNested⟩ := h
    exact ⟨hSeparate, by simp [Node.label], hVoid, hNames,
      fun child hChild => not_mem_of_closedBy (hNested child hChild)⟩
  | text content =>
    obtain ⟨hContent, rfl, rfl⟩ := h
    exact tidy_leaf (by simpa using hContent)
  | comment content =>
    obtain ⟨rfl, rfl⟩ := h
    exact tidy_leaf (by simp)
  | doctype content =>
    obtain ⟨rfl, rfl⟩ := h
    exact tidy_leaf (by simp)
  | fragment => exact h.elim

theorem tidyTree_ofEvents (events : List Event) : (Node.ofEvents events).TidyTree := by
  obtain ⟨hNodes, hSeparate⟩ := wellFormed_ofEvents events
  refine ⟨rfl, fun node hNode hLabel => ?_, fun node hNode => ?_⟩
  · have hShape := hNodes node hNode
    obtain ⟨label, attrs, children⟩ := node
    cases hLabel
    exact hShape
  · rw [Node.subtrees_eq] at hNode
    rcases List.mem_cons.1 hNode with rfl | hNode
    · exact tidy_fragment hSeparate
    · exact (hNodes node hNode).tidy

/-- Whatever the events are, they make a tree of tidy nodes; and so does
every text that can be read. -/
theorem tidyTree_ofEvents_and_parseMarkup :
    (∀ events, (Node.ofEvents events).TidyTree)
      ∧ ∀ t root, parseMarkup t = .ok root → root.TidyTree := by
  refine ⟨tidyTree_ofEvents, fun t root hParse => ?_⟩
  obtain ⟨events, _, rfl⟩ := exists_of_map_eq_ok hParse
  exact tidyTree_ofEvents events

/-- A block in a paragraph, a row in a cell, an element without content that
closes itself, a repeated attribute, and end tags that close nothing or more
than they name. -/
theorem tidyTree_crossing :
    let markup : Text := ("<p>a<hr/>b<b><p>c</i></p>" : Text)
      ++ ("<tr><td x=1 x=2>d<tr><td>" : Text)
    let root : Node := .fragment [
      .element "p" [] [.text "a"], .element "hr" [] [],
      .text "b", .element "b" [] [
        .element "p" [] [.text "c"],
        .element "tr" [] [.element "td" [("x", "1")] [.text "d"]],
        .element "tr" [] [.element "td" [] []]]]
    parseMarkup markup = .ok root ∧ root.TidyTree := by
  intro markup root
  have hParse : parseMarkup markup = .ok root := by decide +kernel
  exact ⟨hParse, tidyTree_ofEvents_and_parseMarkup.2 markup root hParse⟩

end TreeTemplate
