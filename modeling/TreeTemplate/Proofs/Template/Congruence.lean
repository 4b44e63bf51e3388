/-
TreeTemplate.Proofs.Template.Congruence — relations that rendering respects.

What happens between the inclusions of a tree is the same in every
rendering of it: results, failures at paths and loops, and one step after
another. So a relation between computations that holds of these and of the
inclusions holds of the whole tree. Only those inclusions count that an
element of the tree asks for.

* `Mentions` — the partials that a row of trees asks for.
* `Rendering.Congruence` — relations that pass through steps.
* `Congruence.renderElement`, `Congruence.renderNodes` — elements and trees.
-/
import TreeTemplate.Proofs.Markup.Subtree
import TreeTemplate.Template.Render

namespace TreeTemplate

/-! ## 1. Partials that are asked for -/

/-- Whether an element in a row of trees has an inclusion of the name. -/
def Mentions (openings : List Text) (nodes : List Node) (name : Text) : Prop :=
  ∃ node ∈ Node.subtreesOfAll nodes, ∃ directive ∈ directivesOf openings node,
    directive.kind = .inclusion ∧ partialName directive.value = name

theorem mentions_iff {openings : List Text} {nodes : List Node} {name : Text} :
    Mentions openings nodes name ↔ ∃ node ∈ nodes, Mentions openings [node] name := by
  simp only [Mentions, Node.subtreesOfAll_eq, List.mem_flatMap, List.mem_singleton,
    exists_eq_left]
  constructor
  · rintro ⟨m, ⟨node, hNode, hm⟩, hDirective⟩
    exact ⟨node, hNode, m, hm, hDirective⟩
  · rintro ⟨node, hNode, m, hm, hDirective⟩
    exact ⟨m, ⟨node, hNode, hm⟩, hDirective⟩

/-- The inclusion on an element. -/
theorem mentions_here {openings : List Text} {tag : Text} {attrs : Table Text}
    {children : List Node} {directive : Directive}
    (hMem : directive ∈ directivesAmong openings attrs) (hKind : directive.kind = .inclusion) :
    Mentions openings [.mk (.element tag) attrs children] (partialName directive.value) := by
  refine ⟨.mk (.element tag) attrs children, ?_, directive, hMem, hKind, rfl⟩
  rw [Node.subtreesOfAll, Node.subtrees]
  exact List.mem_cons_self

/-- An inclusion inside a node. -/
theorem mentions_below {openings : List Text} {label : Label} {attrs : Table Text}
    {children : List Node} {name : Text} (h : Mentions openings children name) :
    Mentions openings [.mk label attrs children] name := by
  obtain ⟨node, hNode, hDirective⟩ := h
  refine ⟨node, ?_, hDirective⟩
  rw [Node.subtreesOfAll, Node.subtrees]
  exact List.mem_append_left _ (List.mem_cons_of_mem _ hNode)

/-! ## 2. Relations that pass through steps -/

variable {σ τ : Type}

/-- A relation between computations that holds of results and of the failures
that the data lead to, and passes through steps. -/
structure Rendering.Congruence (R : (α : Type) → Rendering σ α → Rendering τ α → Prop) :
    Prop where
  pure {α : Type} (a : α) : R α (pure a) (pure a)
  path {α : Type} (e : PathError) : R α (throw (.path e)) (throw (.path e))
  loop {α : Type} (e : LoopError) : R α (throw (.ofLoop e)) (throw (.ofLoop e))
  bind {α β : Type} {x : Rendering σ α} {y : Rendering τ α} {f : α → Rendering σ β}
    {g : α → Rendering τ β} : R α x y → (∀ a, R β (f a) (g a)) → R β (x >>= f) (y >>= g)

namespace Rendering.Congruence

variable {R : (α : Type) → Rendering σ α → Rendering τ α → Prop} (hR : Congruence R)

include hR

/-- A result that uses no source. -/
theorem ofExcept {ε α : Type} {wrap : ε → RenderError}
    (h : ∀ e, R α (throw (wrap e)) (throw (wrap e))) (x : Except ε α) :
    R α (ofExcept wrap x) (ofExcept wrap x) := by
  cases x with
  | ok a => exact hR.pure a
  | error e => exact h e

theorem renderEach {body : Value → Rendering σ (List Node)}
    {body' : Value → Rendering τ (List Node)} (h : ∀ c, R _ (body c) (body' c))
    (contexts : List Value) : R _ (renderEach body contexts) (renderEach body' contexts) := by
  induction contexts with
  | nil => exact hR.pure []
  | cons c rest ih =>
    exact hR.bind (h c) fun nodes => hR.bind ih fun more => hR.pure (nodes ++ more)

variable {openings : List Text} {included : Text → Value → Rendering σ (List Node)}
  {included' : Text → Value → Rendering τ (List Node)}

/-- An element on which directives have still to act. -/
theorem renderElement {tag content : Text} {inside : Value → Rendering σ (List Node)}
    {inside' : Value → Rendering τ (List Node)} (hInside : ∀ c, R _ (inside c) (inside' c))
    (directives : List Directive)
    (hIncluded : ∀ directive ∈ directives, directive.kind = .inclusion →
      ∀ c, R _ (included (partialName directive.value) c)
        (included' (partialName directive.value) c)) (attrs : Table Text) (c : Value) :
    R _ (renderElement included tag content inside directives attrs c)
      (renderElement included' tag content inside' directives attrs c) := by
  induction directives generalizing attrs c with
  | nil =>
    unfold TreeTemplate.renderElement
    split
    · exact hR.bind (hR.ofExcept hR.path _) fun t => hR.pure [Node.text t]
    · exact hR.bind (hInside c) fun children => hR.pure [Node.element tag attrs children]
  | cons directive rest ih =>
    obtain ⟨hHere, hRest⟩ := List.forall_mem_cons.1 hIncluded
    unfold TreeTemplate.renderElement
    split
    · next hKind => exact hHere hKind c
    · refine hR.bind (hR.ofExcept hR.path _) fun decision => ?_
      cases decision with
      | drop => exact hR.pure []
      | unwrap => exact hInside c
      | keep => exact ih hRest _ _
    · refine hR.bind (hR.ofExcept hR.loop _) fun contexts => ?_
      exact hR.renderEach (fun c => ih hRest _ c) contexts
    · exact hR.bind (hR.ofExcept hR.path _) fun bound => ih hRest bound c
    · exact hR.bind (hR.ofExcept hR.path _) fun bound => ih hRest bound c

/-- A row of nodes, if the relation holds of each of them. -/
theorem renderNodes_of_mem {nodes : List Node}
    (h : ∀ node ∈ nodes, ∀ c, R _ (renderNode openings included node c)
      (renderNode openings included' node c)) (c : Value) :
    R _ (renderNodes openings included nodes c) (renderNodes openings included' nodes c) := by
  induction nodes with
  | nil => exact hR.pure []
  | cons node rest ih =>
    obtain ⟨hNode, hRest⟩ := List.forall_mem_cons.1 h
    exact hR.bind (hNode c) fun nodes => hR.bind (ih hRest) fun more => hR.pure (nodes ++ more)

/-- One tree. -/
theorem renderNode (node : Node)
    (hIncluded : ∀ name, Mentions openings [node] name →
      ∀ c, R _ (included name c) (included' name c)) (c : Value) :
    R _ (renderNode openings included node c) (renderNode openings included' node c) := by
  induction node using Node.induct generalizing c with
  | step label attrs children ih =>
    cases label with
    | element tag =>
      have hInside (c : Value) : R _ (renderNodes openings included children c)
          (renderNodes openings included' children c) :=
        hR.renderNodes_of_mem (fun child hChild => ih child hChild fun name hName =>
          hIncluded name (mentions_below (mentions_iff.2 ⟨child, hChild, hName⟩))) c
      unfold TreeTemplate.renderNode
      exact hR.renderElement hInside _ (fun directive hMem hKind =>
        hIncluded _ (mentions_here hMem hKind)) attrs c
    | text content => exact hR.pure _
    | comment content => exact hR.pure _
    | doctype content => exact hR.pure _
    | fragment => exact hR.pure _

/-- A row of trees. -/
theorem renderNodes {nodes : List Node}
    (hIncluded : ∀ name, Mentions openings nodes name →
      ∀ c, R _ (included name c) (included' name c)) (c : Value) :
    R _ (renderNodes openings included nodes c) (renderNodes openings included' nodes c) :=
  hR.renderNodes_of_mem (fun node hNode => hR.renderNode node fun name hName =>
    hIncluded name (mentions_iff.2 ⟨node, hNode, hName⟩)) c

end Rendering.Congruence

end TreeTemplate
