/-
TreeTemplate.Proofs.Template.Plain — templates that direct nothing.

Where no element is a placeholder and none has an attribute that is a
directive under one of the openings, rendering leaves out the comments and
hands on everything else as it is, whatever the data are, and whether there
is a source or not. It asks for no partial.

* `Node.withoutComments`, `Node.withoutCommentsAll` — trees without comments.
* `Node.Plain` — a node that directs nothing.
* `renderNodes_plain` — trees of such nodes.
* `render_plain` — the whole rendering.
-/
import TreeTemplate.Proofs.Template.Directive
import TreeTemplate.Proofs.Template.Likeness

namespace TreeTemplate

/-! ## 1. Trees without comments -/

namespace Node

def isComment (node : Node) : Bool :=
  match node.label with
  | .comment _ => true
  | _ => false

mutual

/-- The tree without the comments in it. Only elements and fragments have
nodes inside. -/
def withoutComments : Node → Node
  | mk (.element tag) attrs children => mk (.element tag) attrs (withoutCommentsAll children)
  | mk .fragment attrs children => mk .fragment attrs (withoutCommentsAll children)
  | node => node

/-- A row of trees without the comments among and in them. -/
def withoutCommentsAll : List Node → List Node
  | [] => []
  | node :: rest =>
    if node.isComment then withoutCommentsAll rest
    else withoutComments node :: withoutCommentsAll rest

end

end Node

/-! ## 2. Nodes that direct nothing -/

/-- A node that directs nothing under the openings. -/
structure Node.Plain (openings : List Text) (node : Node) : Prop where
  fragment : node.label ≠ .fragment
  placeholder : node.label ≠ .element placeholderTag
  undirected : node.isElement = true → ∀ opening ∈ openings, ∀ kind : DirectiveKind,
    node.hasAttr (opening ++ kind.word) = false

variable {σ : Type} {openings : List Text}

/-! ## 3. Rendering -/

/-- A row of nodes, if each of them is handed on without its comments. -/
theorem renderNodes_plain_of_mem {included : Text → Value → Rendering σ (List Node)}
    {nodes : List Node} {c : Value}
    (h : ∀ node ∈ nodes, renderNode openings included node c
      = pure (if node.isComment then [] else [node.withoutComments])) :
    renderNodes openings included nodes c = pure (Node.withoutCommentsAll nodes) := by
  induction nodes with
  | nil => rfl
  | cons node rest ih =>
    obtain ⟨hNode, hRest⟩ := List.forall_mem_cons.1 h
    rw [renderNodes, hNode, ih hRest, Node.withoutCommentsAll]
    cases node.isComment <;> rfl

/-- A row of trees. -/
theorem renderNodes_plain (included : Text → Value → Rendering σ (List Node)) {nodes : List Node}
    (hPlain : Everywhere (Node.Plain openings) nodes) (c : Value) :
    renderNodes openings included nodes c = pure (Node.withoutCommentsAll nodes) := by
  refine renderNodes_plain_of_mem (hPlain.induct fun label attrs children hHere ih => ?_)
  cases label with
  | element tag =>
    have hTag : tag ≠ placeholderTag := fun hTag =>
      hHere.placeholder (congrArg Label.element hTag)
    have hNone : directivesAmong openings attrs = [] :=
      directivesAmong_eq_nil (hHere.undirected rfl)
    have hInside : renderNodes openings included children c
        = pure (Node.withoutCommentsAll children) := renderNodes_plain_of_mem ih
    rw [renderNode, hNone, renderElement, if_neg hTag, hInside]
    rfl
  | text content => rfl
  | comment content => rfl
  | doctype content => rfl
  | fragment => exact absurd rfl hHere.fragment

/-- A template of nodes that direct nothing is rendered to its content
without the comments, and the source is left as it was; one that keeps the
names it is asked for has none to keep. Without any opening for the names of
directives nothing is rendered at all. -/
theorem render_plain {settings : Settings} (hOpenings : settings.openings ≠ [])
    (source : Option (Source σ)) {template : Node}
    (hPlain : ∀ node ∈ Node.subtreesOfAll template.children, node.Plain settings.openings)
    (data : Value) (state : σ) (requests : List Text) :
    let output := Node.withoutCommentsAll template.children
    (render settings source template data).runFrom state = (.ok output, state)
      ∧ (render settings (source.map Source.logged) template data).runFrom (state, requests)
        = (.ok output, (state, requests)) := by
  have hPure {τ : Type} (source : Option (Source τ)) : render settings source template data
      = pure (Node.withoutCommentsAll template.children) := by
    rw [render, if_neg hOpenings, renderWithin_eq]
    exact renderNodes_plain _ hPlain data
  rw [hPure, hPure]
  exact ⟨rfl, rfl⟩

/-- Comments at two depths, words of directives without the opening, an empty
text and a document type, beside a source that has nothing. -/
theorem render_plain_page :
    let template : Node := .fragment [.doctype "html", .comment "a",
      .element "p" [("if", "x"), ("style", "color:c"), ("data-id", "1")]
        [.text [], .comment "b", .element "script" [] [.text "<var>"]],
      .text "!"]
    let output : List Node := [.doctype "html",
      .element "p" [("if", "x"), ("style", "color:c"), ("data-id", "1")]
        [.text [], .element "script" [] [.text "<var>"]],
      .text "!"]
    let settings : Settings := ⟨["data-", "x-"], 4, some parseMarkup⟩
    let data : Value := .dict [("x", .bool false), ("c", .str "red")]
    Node.withoutCommentsAll template.children = output
      ∧ (render settings (some Source.empty) template data).runFrom () = (.ok output, ())
      ∧ (render settings ((some Source.empty).map Source.logged) template data).runFrom ((), [])
        = (.ok output, ((), [])) := by
  intro template output settings data
  have hPlain : ∀ node ∈ Node.subtreesOfAll template.children, node.Plain ["data-", "x-"] := by
    have hAll : ∀ node ∈ Node.subtreesOfAll template.children, node.label ≠ .fragment
        ∧ node.label ≠ .element placeholderTag
        ∧ ∀ opening ∈ (["data-", "x-"] : List Text), ∀ kind ∈ DirectiveKind.all,
          node.hasAttr (opening ++ kind.word) = false := by
      decide +kernel
    intro node hNode
    obtain ⟨hFragment, hPlaceholder, hAttrs⟩ := hAll node hNode
    exact ⟨hFragment, hPlaceholder, fun _ opening hOpening kind =>
      hAttrs opening hOpening kind (by cases kind <;> decide)⟩
  exact ⟨by decide +kernel, render_plain (by decide) (some Source.empty) hPlain data () []⟩

end TreeTemplate
