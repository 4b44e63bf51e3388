/-
TreeTemplate.Template.Render — rendering (`TreeWalker`, specification §4.2,
and `IncludeResolver`, §4.5).

Rendering turns the content of a template into nodes. Comments are left
out; of all other nodes only elements are touched. An element is acted on
by its directives in their order; then a placeholder gives its text, and
another element is rendered inside. An inclusion takes the place of its
element: the partial is rendered in the same context, with one inclusion
less to go.

* `Settings` — openings of directive names, limit of inclusions, parser.
* `renderElement` — one element, given how its content and its inclusions are
  rendered; the cases are the five directives and the placeholder.
* `renderNode`, `renderNodes` — trees, given how inclusions are rendered
  (`visit`, `walk_children`).
* `renderWithin` — trees, with the count of inclusions that may still be made
  inside each other.
* `render` — the content of a template.
-/
import TreeTemplate.Markup.Html
import TreeTemplate.Markup.Source
import TreeTemplate.Partial.Source
import TreeTemplate.Template.Binding
import TreeTemplate.Template.Directive
import TreeTemplate.Template.Placeholder

namespace TreeTemplate

/-! ## 1. Failures -/

/-- Why a template cannot be rendered. -/
inductive RenderError where
  | noOpenings
  | path (error : PathError)
  | notIterable (path kind : Text)
  | noSource (name : Text)
  | noParser (name : Text)
  /-- The inclusions made inside each other, the innermost last, are more
  than the limit allows. -/
  | tooDeep (limit : Int) (chain : List Text)
  | load (error : LoadError)
  | markup (error : MarkupError)
deriving DecidableEq

namespace RenderError

/-- The words for an error. -/
def message : RenderError → Text
  | noOpenings => "At least one directive prefix is required"
  | path error => error.message
  | notIterable p kind =>
    ("loop source must be an array or object: \"" : Text) ++ p ++ ("\" resolved to " : Text)
      ++ kind
  | noSource name =>
    ("Cannot include \"" : Text) ++ name ++ ("\": no partial loader configured" : Text)
  | noParser name =>
    ("Cannot include \"" : Text) ++ name ++ ("\": no markup parser configured" : Text)
  | tooDeep limit chain =>
    ("Include depth limit (" : Text) ++ Text.ofInt limit ++ (") exceeded: " : Text)
      ++ Text.joined " -> " chain
  | load error => error.message
  | markup error => error.message

/-- A failure of a loop as a failure of rendering. -/
def ofLoop : LoopError → RenderError
  | .path error => path error
  | .notIterable p kind => notIterable p kind

end RenderError

/-- Results of rendering from a source with states of type `σ`: a failure
keeps the state that was reached. -/
abbrev Rendering (σ α : Type) := ExceptT RenderError (StateM σ) α

/-- What rendering needs to know besides template, data and source. -/
structure Settings where
  /-- What may stand before the word of a directive. -/
  openings : List Text
  /-- How many inclusions may be made inside each other. -/
  maxDepth : Int
  /-- The reader of partials. -/
  parser : Option (Text → Except MarkupError Node)

variable {σ : Type}

/-! ## 2. Elements -/

/-- A result that uses no source. -/
def Rendering.ofExcept {ε α : Type} (wrap : ε → RenderError) : Except ε α → Rendering σ α
  | .ok a => pure a
  | .error e => throw (wrap e)

/-- Renders for each context and joins the nodes. -/
def renderEach (body : Value → Rendering σ (List Node)) : List Value → Rendering σ (List Node)
  | [] => pure []
  | context :: rest => do
    let nodes ← body context
    let more ← renderEach body rest
    pure (nodes ++ more)

/-- The name of the partial that the value of an inclusion gives. -/
def partialName (value : Text) : Text := value.trim

/-- An element with the attributes `attrs`, on which `directives` have
still to act. `content` is its text, `inside` renders its children, and
`included` renders an inclusion. -/
def renderElement (included : Text → Value → Rendering σ (List Node)) (tag content : Text)
    (inside : Value → Rendering σ (List Node)) :
    List Directive → Table Text → Value → Rendering σ (List Node)
  | [], attrs, context =>
    if tag = placeholderTag then do
      let t ← Rendering.ofExcept .path (placeholderText content context)
      pure [.text t]
    else do
      let children ← inside context
      pure [.element tag attrs children]
  | directive :: rest, attrs, context =>
    let others := attrs.erase directive.name
    match directive.kind with
    | .inclusion => included (partialName directive.value) context
    | .condition => do
      match ← Rendering.ofExcept .path (decisionFor tag directive.value context) with
      | .drop => pure []
      | .unwrap => inside context
      | .keep => renderElement included tag content inside rest others context
    | .loop => do
      let contexts ← Rendering.ofExcept .ofLoop (loopContexts directive.value context)
      renderEach (fun c => renderElement included tag content inside rest others c) contexts
    | .style => do
      let bound ← Rendering.ofExcept .path (bindStyle directive.value context others)
      renderElement included tag content inside rest bound context
    | .attr => do
      let bound ← Rendering.ofExcept .path (bindAttrs directive.value context others)
      renderElement included tag content inside rest bound context

/-! ## 3. Trees -/

mutual

/-- Renders a node. -/
def renderNode (openings : List Text) (included : Text → Value → Rendering σ (List Node)) :
    Node → Value → Rendering σ (List Node)
  | .mk (.comment _) _ _, _ => pure []
  | .mk (.element tag) attrs children, context =>
    renderElement included tag (Node.textContents children)
      (fun c => renderNodes openings included children c) (directivesAmong openings attrs) attrs
      context
  | node, _ => pure [node]

/-- Renders a row of nodes, from left to right. -/
def renderNodes (openings : List Text) (included : Text → Value → Rendering σ (List Node)) :
    List Node → Value → Rendering σ (List Node)
  | [], _ => pure []
  | node :: rest, context => do
    let nodes ← renderNode openings included node context
    let more ← renderNodes openings included rest context
    pure (nodes ++ more)

end

/-! ## 4. Inclusions -/

/-- The text of a partial. -/
def ask (source : Source σ) (name : Text) : Rendering σ Text :=
  ExceptT.mk fun state =>
    let (answer, next) := source.load name state
    (answer.mapError .load, next)

/-- The tree of a partial, which stands inside the inclusions of `chain`,
the innermost last. -/
def fetch (settings : Settings) (source : Option (Source σ)) (chain : List Text) (name : Text) :
    Rendering σ Node :=
  match source, settings.parser with
  | none, _ => throw (.noSource name)
  | some _, none => throw (.noParser name)
  | some source, some parser =>
    if settings.maxDepth ≤ chain.length then throw (.tooDeep settings.maxDepth (chain ++ [name]))
    else do
      let markup ← ask source name
      Rendering.ofExcept .markup (parser markup.trim)

/-- Renders a row of nodes inside the inclusions of `chain`, with at most
`remaining` more inside each other. With none remaining `fetch` refuses. -/
def renderWithin (settings : Settings) (source : Option (Source σ)) :
    Nat → List Text → List Node → Value → Rendering σ (List Node)
  | 0, chain, nodes, context =>
    renderNodes settings.openings
      (fun name _ => do
        let _ ← fetch settings source chain name
        pure [])
      nodes context
  | remaining + 1, chain, nodes, context =>
    renderNodes settings.openings
      (fun name c => do
        let root ← fetch settings source chain name
        renderWithin settings source remaining (chain ++ [name]) root.children c)
      nodes context

/-- Renders the content of a template. -/
def render (settings : Settings) (source : Option (Source σ)) (template : Node) (data : Value) :
    Rendering σ (List Node) :=
  if settings.openings = [] then throw .noOpenings
  else renderWithin settings source settings.maxDepth.toNat [] template.children data

end TreeTemplate
