/-
TreeTemplate.Proofs.Markup.Order — the tree of a row of events keeps their order.

From left to right, a tree has the start tags, comments, document types and
texts of the events, each once and in the order in which they were met.
Wherever elements are closed, be it by an end tag, by a start tag or at the
end, nothing moves. Only texts may be joined or cut off from each other, so
they are compared by what stands between two heads of another kind.

* `Node.head`, `headsOf` — what stands at the beginning of each node.
* `Event.head?` — what an event puts into the tree.
* `runs` — a row of heads, with the texts between them joined.
* `OpenTree.heads_take` — one event.
* `ofEvents_order` — the whole tree.
-/
import TreeTemplate.Proofs.Markup.WellFormed

namespace TreeTemplate

/-! ## 1. Heads -/

/-- What a node is, with its attributes: all of a node but what is inside. -/
abbrev Head := Label × Table Text

def Node.head (node : Node) : Head := (node.label, node.attrs)

/-- The heads of all nodes in a row of trees, from left to right. -/
def headsOf (nodes : List Node) : List Head := (Node.subtreesOfAll nodes).map Node.head

/-- The attributes that a start tag gives to its element: of each name the
first, and the empty value where there is none. -/
def firstValues : List (Text × Option Text) → Table Text
  | [] => []
  | (name, value) :: rest => (name, value.getD []) :: (firstValues rest).erase name

/-- What an event puts into the tree. -/
def Event.head? : Event → Option Head
  | .startTag tag attrs _ => some (.element tag, firstValues attrs)
  | .endTag _ => none
  | .text content => some (.text content, [])
  | .comment content => some (.comment content, [])
  | .doctype content => some (.doctype content, [])

/-- The text before all heads that are no texts, and each of these heads
with the text that follows it. -/
def runs : List Head → Text × List (Head × Text)
  | [] => ([], [])
  | (.text content, _) :: rest => (content ++ (runs rest).1, (runs rest).2)
  | head :: rest => ([], (head, (runs rest).1) :: (runs rest).2)

@[simp] theorem headsOf_nil : headsOf [] = [] := rfl

@[simp] theorem headsOf_append (nodes others : List Node) :
    headsOf (nodes ++ others) = headsOf nodes ++ headsOf others := by
  simp [headsOf, Node.subtreesOfAll_eq]

theorem headsOf_singleton (node : Node) : headsOf [node] = node.head :: headsOf node.children := by
  simp [headsOf, Node.subtreesOfAll, Node.subtrees_eq]

theorem headsOf_text (t : Text) : headsOf [.text t] = [(.text t, [])] := rfl

/-- What comes before does not matter. -/
theorem runs_append_congr {later later' : List Head} (h : runs later = runs later')
    (before : List Head) : runs (before ++ later) = runs (before ++ later') := by
  induction before with
  | nil => exact h
  | cons head before ih =>
    obtain ⟨label, attrs⟩ := head
    cases label <;> simp only [List.cons_append, runs, ih]

theorem firstOfEach_eq_firstValues (attrs : List (Text × Option Text)) :
    Table.firstOfEach (attrs.map fun (name, value) => (name, value.getD []))
      = firstValues attrs := by
  induction attrs with
  | nil => rfl
  | cons attr rest ih =>
    rw [List.map_cons, Table.firstOfEach_cons, ih]
    rfl

/-- A text that is well formed is nothing but text. -/
theorem Node.WellFormed.eq_text {node : Node} (h : node.WellFormed) (hText : node.isText = true) :
    ∃ t, node = .text t := by
  obtain ⟨label, attrs, children⟩ := node
  cases label with
  | text content =>
    obtain ⟨_, rfl, rfl⟩ := h
    exact ⟨content, rfl⟩
  | _ => cases hText

/-! ## 2. Trees under construction -/

/-- The heads of an open element. -/
def OpenElement.heads (element : OpenElement) : List Head :=
  (.element element.tag, element.attrs) :: headsOf element.content.reverse

namespace OpenTree

/-- The heads of a tree under construction: those outside, and those of the
open elements from the outermost to the innermost. -/
def heads (tree : OpenTree) : List Head :=
  headsOf tree.outside.reverse ++ tree.stack.reverse.flatMap OpenElement.heads

theorem heads_cons (inner : OpenElement) (outer : List OpenElement) (outside : List Node) :
    heads ⟨inner :: outer, outside⟩ = heads ⟨outer, outside⟩ ++ inner.heads := by
  simp [heads]

/-- A node that is no text comes last. -/
theorem heads_add (tree : OpenTree) {node : Node} (h : node.isText = false) :
    (tree.add node).heads = tree.heads ++ headsOf [node] := by
  obtain ⟨stack, outside⟩ := tree
  have hAttach (content : List Node) : attach content node = node :: content :=
    attach_eq_cons fun _ _ _ => h
  cases stack with
  | nil => simp [add, heads, hAttach]
  | cons inner outer =>
    simp only [add, hAttach, heads_cons, OpenElement.heads, List.reverse_cons, headsOf_append,
      List.cons_append, List.append_assoc]

theorem heads_closeInnermost (tree : OpenTree) : tree.closeInnermost.heads = tree.heads := by
  obtain ⟨stack, outside⟩ := tree
  cases stack with
  | nil => rfl
  | cons inner outer =>
    rw [closeInnermost, heads_add _ rfl, heads_cons, headsOf_singleton]
    rfl

/-- Closing elements moves nothing. -/
theorem heads_close (n : Nat) (tree : OpenTree) : (close n tree).heads = tree.heads := by
  induction n generalizing tree with
  | zero => rfl
  | succ n ih => rw [close, ih, heads_closeInnermost]

theorem heads_closeTag (tree : OpenTree) (tag : Text) : (tree.closeTag tag).heads = tree.heads := by
  unfold closeTag
  split
  · exact heads_close _ tree
  · rfl

theorem heads_openTag (tree : OpenTree) (tag : Text) (attrs : List (Text × Option Text)) :
    (tree.openTag tag attrs).heads = tree.heads ++ [(.element tag, firstValues attrs)] := by
  have hClosed : (tree.closeImplied tag).heads = tree.heads := heads_close _ tree
  rw [openTag, firstOfEach_eq_firstValues]
  split
  · rw [heads_add _ rfl, hClosed]
    rfl
  · rw [heads_cons, ← hClosed]
    rfl

/-- A text that is attached to a row may be joined to the one before it. -/
theorem runs_attach_text {content : List Node} (h : Everywhere Node.WellFormed content) (t : Text)
    (later : List Head) :
    runs (headsOf (attach content (.text t)).reverse ++ later)
      = runs (headsOf content.reverse ++ (.text t, []) :: later) := by
  by_cases hLast : ∀ last ∈ content.head?, last.isText = false
  · have hAttach : attach content (.text t) = .text t :: content :=
      attach_eq_cons fun last hMem hText => absurd (hLast last hMem) (by simp [hText])
    rw [hAttach, List.reverse_cons, headsOf_append, headsOf_text, List.append_assoc]
    rfl
  · obtain ⟨last, hMem, hText⟩ : ∃ last ∈ content.head?, last.isText = true := by
      simpa using hLast
    obtain ⟨before, rfl⟩ : ∃ before, content = last :: before := by
      cases content with
      | nil => cases hMem
      | cons first before => exact ⟨before, by rw [Option.mem_some_iff.1 hMem]⟩
    obtain ⟨s, rfl⟩ := (everywhere_cons.1 h).1.eq_text hText
    have hAttach : attach (.text s :: before) (.text t) = .text (s ++ t) :: before := rfl
    rw [hAttach, List.reverse_cons, List.reverse_cons, headsOf_append, headsOf_append,
      headsOf_text, headsOf_text, List.append_assoc, List.append_assoc]
    exact runs_append_congr (by simp [runs]) _

/-- A text comes last. -/
theorem runs_heads_add_text {tree : OpenTree} (hTree : tree.Follows wellFormedRule) (t : Text)
    (later : List Head) :
    runs ((tree.add (.text t)).heads ++ later) = runs (tree.heads ++ (.text t, []) :: later) := by
  obtain ⟨stack, outside⟩ := tree
  cases stack with
  | nil =>
    have hAttach := runs_attach_text hTree.outside t later
    simpa [add, heads] using hAttach
  | cons inner outer =>
    have hContent : Everywhere Node.WellFormed inner.content :=
      hTree.contents inner List.mem_cons_self
    have hAttach := runs_append_congr (runs_attach_text hContent t later)
      (heads ⟨outer, outside⟩ ++ [(.element inner.tag, inner.attrs)])
    simpa [add, heads_cons, OpenElement.heads] using hAttach

/-- One event. -/
theorem heads_take {tree : OpenTree} (hTree : tree.Follows wellFormedRule) (event : Event)
    (later : List Head) :
    runs ((tree.take event).heads ++ later)
      = runs (tree.heads ++ (event.head?.toList ++ later)) := by
  cases event with
  | startTag tag attrs closesItself =>
    have hHeads : (tree.take (.startTag tag attrs closesItself)).heads
        = tree.heads ++ [(.element tag, firstValues attrs)] := by
      simp only [take]
      split
      · rw [heads_closeTag, heads_openTag]
      · exact heads_openTag tree tag attrs
    rw [hHeads, List.append_assoc]
    rfl
  | endTag tag => rw [take, heads_closeTag]; rfl
  | text content =>
    cases content with
    | nil =>
      -- An empty text is not put in, and among heads it is nothing.
      exact runs_append_congr (by simp [Event.head?, runs]) tree.heads
    | cons c rest => exact runs_heads_add_text hTree (c :: rest) later
  | comment content => rw [take, heads_add _ rfl, List.append_assoc]; rfl
  | doctype content => rw [take, heads_add _ rfl, List.append_assoc]; rfl

/-- A row of events, whatever stands behind them. -/
theorem heads_foldl_take {tree : OpenTree} (hTree : tree.Follows wellFormedRule)
    (events : List Event) (later : List Head) :
    runs ((events.foldl take tree).heads ++ later)
      = runs (tree.heads ++ (events.filterMap Event.head? ++ later)) := by
  induction events generalizing tree with
  | nil => rfl
  | cons event events ih =>
    rw [List.foldl_cons, ih (hTree.take (wellFormedRule_admits event)), heads_take hTree]
    cases hHead : event.head? <;> simp [hHead]

/-- The end closes what is still open. -/
theorem headsOf_finish (tree : OpenTree) : headsOf tree.finish.children = tree.heads := by
  have hTags := map_tag_close tree.stack.length tree
  rw [List.drop_eq_nil_of_le (by simp)] at hTags
  have hStack : (close tree.stack.length tree).stack = [] := List.map_eq_nil_iff.1 hTags
  rw [← heads_close tree.stack.length tree, heads, hStack]
  exact (List.append_nil _).symm

end OpenTree

/-! ## 3. Texts -/

/-- The texts among heads, one after another. -/
def textOf (heads : List Head) : Text :=
  heads.flatMap fun head => match head.1 with
    | .text content => content
    | _ => []

/-- The text that an event holds. -/
def Event.data : Event → Text
  | .text content => content
  | _ => []

theorem textOf_append (heads others : List Head) :
    textOf (heads ++ others) = textOf heads ++ textOf others :=
  List.flatMap_append

theorem textOf_runs (heads : List Head) :
    textOf heads = (runs heads).1 ++ (runs heads).2.flatMap Prod.snd := by
  induction heads with
  | nil => rfl
  | cons head rest ih =>
    obtain ⟨label, attrs⟩ := head
    rw [textOf, List.flatMap_cons, ← textOf, ih]
    cases label <;> simp [runs]

theorem textOf_events (events : List Event) :
    textOf (events.filterMap Event.head?) = events.flatMap Event.data := by
  induction events with
  | nil => rfl
  | cons event rest ih =>
    rw [List.flatMap_cons, ← ih]
    cases event <;> simp [List.filterMap_cons, Event.head?, Event.data, textOf]

theorem textContents_of_mem {nodes : List Node}
    (h : ∀ node ∈ nodes, node.textContent = textOf (headsOf [node])) :
    Node.textContents nodes = textOf (headsOf nodes) := by
  induction nodes with
  | nil => rfl
  | cons node rest ih =>
    obtain ⟨hNode, hRest⟩ := List.forall_mem_cons.1 h
    have hHeads : headsOf (node :: rest) = headsOf [node] ++ headsOf rest :=
      headsOf_append [node] rest
    rw [Node.textContents, hNode, ih hRest, hHeads, textOf_append]

/-- The text of a tree is made of the texts among its heads. -/
theorem textContents_eq {nodes : List Node} (h : Everywhere Node.WellFormed nodes) :
    Node.textContents nodes = textOf (headsOf nodes) := by
  refine textContents_of_mem (h.induct fun label attrs children hShape ih => ?_)
  have hChildren : Node.textContents children = textOf (headsOf children) := textContents_of_mem ih
  rw [headsOf_singleton]
  cases label with
  | text content =>
    obtain ⟨_, rfl, rfl⟩ := hShape
    simp [Node.textContent, textOf, Node.head, Node.label, Node.children]
  | _ => exact hChildren

/-! ## 4. The whole tree -/

/-- From left to right, the tree of a row of events has what the events put
into it, in their order, and its text is the text of the events. -/
theorem ofEvents_order (events : List Event) :
    runs (headsOf (Node.ofEvents events).children) = runs (events.filterMap Event.head?)
      ∧ (Node.ofEvents events).textContent = events.flatMap Event.data := by
  have hEmpty : OpenTree.empty.Follows wellFormedRule := OpenTree.follows_empty .nil
  have hRuns : runs (headsOf (Node.ofEvents events).children)
      = runs (events.filterMap Event.head?) := by
    have hHeads := OpenTree.heads_foldl_take hEmpty events []
    rw [List.append_nil, List.append_nil] at hHeads
    rw [Node.ofEvents, OpenTree.headsOf_finish]
    exact hHeads
  refine ⟨hRuns, ?_⟩
  calc (Node.ofEvents events).textContent
      = Node.textContents (Node.ofEvents events).children := rfl
    _ = textOf (headsOf (Node.ofEvents events).children) :=
        textContents_eq (wellFormed_ofEvents events).1
    _ = textOf (events.filterMap Event.head?) := by rw [textOf_runs, hRuns, ← textOf_runs]
    _ = events.flatMap Event.data := textOf_events events

/-- Texts are cut off from each other by an end tag that closes something,
and joined over one that closes nothing. -/
example : headsOf (Node.ofEvents [.startTag "p" [("a", none), ("a", some "1")] false, .text "x",
    .startTag "hr" [] true, .text "y", .endTag "p", .text "z"]).children
      = ([(.element "p", [("a", [])]), (.text "x", []), (.element "hr", []), (.text "yz", [])] :
        List Head) := by
  decide

end TreeTemplate
