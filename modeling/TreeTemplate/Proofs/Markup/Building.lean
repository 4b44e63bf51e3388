/-
TreeTemplate.Proofs.Markup.Building — what is kept while a tree is built.

Nodes are attached to the innermost open element, elements are opened and
closed. A property of finished nodes holds of the whole tree if each of
these keeps it; what has to be asked for that is a `TreeRule`, and one
induction serves all rules.

* `TreeRule` — a property of nodes, with what it needs of open elements.
* `OpenTree.Follows` — a tree under construction that follows a rule.
* `OpenTree.Follows.take`, `OpenTree.Follows.foldl_take` — events.
* `OpenTree.Follows.finish` — the finished tree.
-/
import TreeTemplate.Markup.Tree
import TreeTemplate.Proofs.Markup.Subtree
import Mathlib.Data.List.Chain

namespace TreeTemplate

/-! ## 1. Rules -/

/-- A property of nodes that is kept while trees are built: `frame` holds of
the open elements, `root` of the nodes outside of them, and `nests` says
which elements can stand in an open one. -/
structure TreeRule where
  node : Node → Prop
  frame : OpenElement → Prop
  root : List Node → Prop
  nests : OpenElement → Text → Prop
  joined : ∀ s t : Text, node (.text s) → node (.text t) → node (.text (s ++ t))
  bare : ∀ (t : Text) (attrs : Table Text) (children : List Node),
    node (.mk (.text t) attrs children) → node (.text t)
  closed : ∀ element, frame element → node element.node
  attached : ∀ element n, frame element → node n → (n.isElement = true → nests element n.tag) →
    frame ⟨element.tag, element.attrs, attach element.content n⟩
  outside : ∀ content n, root content → node n → root (attach content n)
  nested : ∀ element tag, closedBy element.tag tag = false → nests element tag

variable {rule : TreeRule}

/-- Only a text after a text does not come to stand beside it. -/
theorem attach_eq_cons {content : List Node} {n : Node}
    (h : ∀ m ∈ content.head?, m.isText = true → n.isText = false) :
    attach content n = n :: content := by
  unfold attach
  split
  · cases h _ rfl rfl
  · rfl

/-- Attaching a node keeps a property of all nodes. -/
theorem everywhere_attach {content : List Node} {n : Node} (hContent : Everywhere rule.node content)
    (hNode : Everywhere rule.node [n]) : Everywhere rule.node (attach content n) := by
  unfold attach
  split
  · next t _ _ s _ _ before =>
    obtain ⟨hText, _, hBefore⟩ := everywhere_cons.1 hContent
    have hNew := (everywhere_singleton.1 hNode).1
    exact everywhere_cons.2 ⟨rule.joined s t (rule.bare _ _ _ hText) (rule.bare _ _ _ hNew),
      everywhere_nil, hBefore⟩
  · obtain ⟨hHead, hBelow⟩ := everywhere_singleton.1 hNode
    exact everywhere_cons.2 ⟨hHead, hBelow, hContent⟩

namespace OpenTree

/-- A tree under construction that follows a rule. -/
structure Follows (rule : TreeRule) (tree : OpenTree) : Prop where
  frames : ∀ element ∈ tree.stack, rule.frame element
  contents : ∀ element ∈ tree.stack, Everywhere rule.node element.content
  nesting : tree.stack.IsChain fun inner outer => rule.nests outer inner.tag
  root : rule.root tree.outside
  outside : Everywhere rule.node tree.outside

variable {tree : OpenTree}

theorem follows_empty (h : rule.root []) : empty.Follows rule :=
  ⟨List.forall_mem_nil _, List.forall_mem_nil _, .nil, h, everywhere_nil⟩

/-! ## 2. Attaching and closing -/

/-- Adding a node that the innermost open element can hold. -/
theorem Follows.add (h : tree.Follows rule) {n : Node} (hNode : Everywhere rule.node [n])
    (hNests : n.isElement = true → ∀ inner ∈ tree.stack.head?, rule.nests inner n.tag) :
    (tree.add n).Follows rule := by
  obtain ⟨stack, outside⟩ := tree
  obtain ⟨hFrames, hContents, hNesting, hRoot, hOutside⟩ := h
  have hHere := (everywhere_singleton.1 hNode).1
  cases stack with
  | nil =>
    exact ⟨hFrames, hContents, hNesting, rule.outside _ _ hRoot hHere,
      everywhere_attach hOutside hNode⟩
  | cons inner outer =>
    obtain ⟨hFrame, hFrames⟩ := List.forall_mem_cons.1 hFrames
    obtain ⟨hContent, hContents⟩ := List.forall_mem_cons.1 hContents
    have hAttached := rule.attached inner n hFrame hHere fun hElement => hNests hElement inner rfl
    refine ⟨List.forall_mem_cons.2 ⟨hAttached, hFrames⟩,
      List.forall_mem_cons.2 ⟨everywhere_attach hContent hNode, hContents⟩, ?_, hRoot, hOutside⟩
    cases outer with
    | nil => exact .singleton _
    | cons next outer =>
      obtain ⟨hNext, hNesting⟩ := List.isChain_cons_cons.1 hNesting
      exact .cons_cons hNext hNesting

theorem Follows.closeInnermost (h : tree.Follows rule) : tree.closeInnermost.Follows rule := by
  obtain ⟨stack, outside⟩ := tree
  cases stack with
  | nil => exact h
  | cons inner outer =>
    obtain ⟨hFrames, hContents, hNesting, hRoot, hOutside⟩ := h
    obtain ⟨hFrame, hFrames⟩ := List.forall_mem_cons.1 hFrames
    obtain ⟨hContent, hContents⟩ := List.forall_mem_cons.1 hContents
    have hOuter : OpenTree.Follows rule ⟨outer, outside⟩ :=
      ⟨hFrames, hContents, hNesting.tail, hRoot, hOutside⟩
    have hNode : Everywhere rule.node [inner.node] :=
      everywhere_singleton.2 ⟨rule.closed inner hFrame, everywhere_reverse.2 hContent⟩
    refine hOuter.add hNode fun _ next hNext => ?_
    cases outer with
    | nil => cases hNext
    | cons next' outer =>
      cases hNext
      exact (List.isChain_cons_cons.1 hNesting).1

theorem Follows.close (h : tree.Follows rule) (n : Nat) : (close n tree).Follows rule := by
  induction n generalizing tree with
  | zero => exact h
  | succ n ih => exact ih h.closeInnermost

theorem map_tag_add (tree : OpenTree) (n : Node) :
    (tree.add n).stack.map OpenElement.tag = tree.stack.map OpenElement.tag := by
  obtain ⟨stack, outside⟩ := tree
  cases stack <;> rfl

/-- Closing takes elements from the stack and leaves the tags of the others. -/
theorem map_tag_close (n : Nat) (tree : OpenTree) :
    (close n tree).stack.map OpenElement.tag = (tree.stack.map OpenElement.tag).drop n := by
  induction n generalizing tree with
  | zero => rfl
  | succ n ih =>
    obtain ⟨stack, outside⟩ := tree
    rw [OpenTree.close, ih]
    cases stack with
    | nil => simp [OpenTree.closeInnermost]
    | cons inner outer =>
      rw [OpenTree.closeInnermost, map_tag_add]
      rfl

/-- The end tag of the innermost open element closes that element. -/
theorem closeTag_cons (inner : OpenElement) (outer : List OpenElement) (outside : List Node) :
    closeTag ⟨inner :: outer, outside⟩ inner.tag = add ⟨outer, outside⟩ inner.node := by
  have hFound : (inner :: outer).findIdx? (fun element => element.tag = inner.tag) = some 0 := by
    simp [List.findIdx?_cons]
  rw [closeTag]
  simp only [hFound]
  rfl

theorem drop_length_takeWhile {α : Type} (p : α → Bool) (l : List α) :
    l.drop (l.takeWhile p).length = l.dropWhile p := by
  induction l with
  | nil => rfl
  | cons a l ih => by_cases h : p a = true <;> simp [h, ih]

/-- A start tag does not close the element that is innermost after all that
it does close. -/
theorem closedBy_closeImplied (tree : OpenTree) (tag : Text) :
    ∀ inner ∈ (tree.closeImplied tag).stack.head?, closedBy inner.tag tag = false := by
  intro inner hInner
  have hTags := congrArg List.head? (map_tag_close
    (tree.stack.takeWhile fun element => closedBy element.tag tag).length tree)
  rw [OpenTree.closeImplied] at hInner
  rw [List.head?_map, Option.mem_def.1 hInner, ← List.map_drop, drop_length_takeWhile,
    List.head?_map] at hTags
  have hHead := List.head?_dropWhile_not (fun element => closedBy element.tag tag) tree.stack
  cases hFound : (tree.stack.dropWhile fun element => closedBy element.tag tag).head? with
  | none => rw [hFound] at hTags; cases hTags
  | some element =>
    rw [hFound] at hTags hHead
    rw [Option.some.inj hTags]
    exact hHead

/-! ## 3. Events -/

end OpenTree

/-- What a rule asks of an event. -/
def TreeRule.Admits (rule : TreeRule) : Event → Prop
  | .startTag tag attrs _ =>
    let attrs := Table.firstOfEach (attrs.map fun (name, value) => (name, value.getD []))
    if isVoid tag then rule.node (.element tag attrs []) else rule.frame ⟨tag, attrs, []⟩
  | .endTag _ => True
  | .text content => content ≠ [] → rule.node (.text content)
  | .comment content => rule.node (.comment content)
  | .doctype content => rule.node (.doctype content)

namespace OpenTree

variable {tree : OpenTree}

theorem Follows.push (h : tree.Follows rule) {element : OpenElement} (hFrame : rule.frame element)
    (hContent : element.content = [])
    (hNests : ∀ inner ∈ tree.stack.head?, rule.nests inner element.tag) :
    OpenTree.Follows rule ⟨element :: tree.stack, tree.outside⟩ := by
  obtain ⟨stack, outside⟩ := tree
  obtain ⟨hFrames, hContents, hNesting, hRoot, hOutside⟩ := h
  refine ⟨List.forall_mem_cons.2 ⟨hFrame, hFrames⟩,
    List.forall_mem_cons.2 ⟨hContent ▸ everywhere_nil, hContents⟩, ?_, hRoot, hOutside⟩
  cases stack with
  | nil => exact .singleton _
  | cons inner outer => exact .cons_cons (hNests inner rfl) hNesting

theorem Follows.openTag (h : tree.Follows rule) {tag : Text} {attrs : List (Text × Option Text)}
    {closesItself : Bool} (hEvent : rule.Admits (.startTag tag attrs closesItself)) :
    (tree.openTag tag attrs).Follows rule := by
  have hNests : ∀ inner ∈ (tree.closeImplied tag).stack.head?, rule.nests inner tag :=
    fun inner hInner => rule.nested inner tag (closedBy_closeImplied tree tag inner hInner)
  have hClosed : (tree.closeImplied tag).Follows rule := h.close _
  unfold OpenTree.openTag
  simp only [TreeRule.Admits] at hEvent
  split
  · next hVoid =>
    rw [if_pos hVoid] at hEvent
    exact hClosed.add (everywhere_singleton.2 ⟨hEvent, everywhere_nil⟩) fun _ => hNests
  · next hVoid =>
    rw [if_neg hVoid] at hEvent
    exact hClosed.push hEvent rfl hNests

theorem Follows.closeTag (h : tree.Follows rule) (tag : Text) :
    (tree.closeTag tag).Follows rule := by
  unfold OpenTree.closeTag
  split
  · exact h.close _
  · exact h

/-- One event. -/
theorem Follows.take (h : tree.Follows rule) {event : Event} (hEvent : rule.Admits event) :
    (tree.take event).Follows rule := by
  have hLeaf {n : Node} (hNode : rule.node n) (hChildren : n.children = [])
      (hElement : n.isElement = false) : (tree.add n).Follows rule :=
    h.add (everywhere_singleton.2 ⟨hNode, hChildren ▸ everywhere_nil⟩)
      fun hIs => absurd (hIs.symm.trans hElement) (by decide)
  cases event with
  | startTag tag attrs closesItself =>
    simp only [OpenTree.take]
    split
    · exact (h.openTag hEvent).closeTag tag
    · exact h.openTag hEvent
  | endTag tag => exact h.closeTag tag
  | text content =>
    cases content with
    | nil => exact h
    | cons c rest => exact hLeaf (hEvent (List.cons_ne_nil _ _)) rfl rfl
  | comment content => exact hLeaf hEvent rfl rfl
  | doctype content => exact hLeaf hEvent rfl rfl

theorem Follows.foldl_take (h : tree.Follows rule) {events : List Event}
    (hEvents : ∀ event ∈ events, rule.Admits event) :
    (events.foldl OpenTree.take tree).Follows rule := by
  induction events generalizing tree with
  | nil => exact h
  | cons event events ih =>
    obtain ⟨hEvent, hEvents⟩ := List.forall_mem_cons.1 hEvents
    exact ih (h.take hEvent) hEvents

/-- All nodes of a finished tree have the property of the rule. -/
theorem Follows.finish (h : tree.Follows rule) :
    Everywhere rule.node tree.finish.children
      ∧ ∃ content, rule.root content ∧ tree.finish.children = content.reverse :=
  have hAll := h.close tree.stack.length
  ⟨everywhere_reverse.2 hAll.outside, _, hAll.root, rfl⟩

end OpenTree

end TreeTemplate
