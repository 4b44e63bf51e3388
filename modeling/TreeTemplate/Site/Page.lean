/-
TreeTemplate.Site.Page — rendered nodes in a page (`mount` and
`load_and_mount`, specification §13).

Rendered nodes are mounted into a target: after its children, or in their
place.

* `mount` — mounts nodes.
* `loadAndMount` — loads data and a template from a source, renders, and
  mounts the result.
-/
import TreeTemplate.Template.Render

namespace TreeTemplate

/-- The target with nodes after its children, or in their place. -/
def mount (target : Node) (nodes : List Node) (inPlace : Bool) : Node :=
  target.withChildren (if inPlace then nodes else target.children ++ nodes)

/-- Why a template cannot be loaded and mounted. -/
inductive MountError where
  | data (failure : Json.Failure)
  | emptyTemplate (name : Text)
  | render (error : RenderError)
deriving DecidableEq

namespace MountError

/-- The words for an error. -/
def message : MountError → Text
  | data failure => failure.message
  | emptyTemplate name => ("Template is empty: " : Text) ++ name
  | render error => error.message

end MountError

variable {σ : Type}

/-- Renders a template from a source into the target, with data from the
same source. -/
def loadAndMount (settings : Settings) (source : Source σ) (dataName templateName : Text)
    (target : Node) (inPlace : Bool) : ExceptT MountError (StateM σ) Node := do
  let dataText ← asMount (ask source dataName)
  let data ← ofExcept (((Json.read dataText)).mapError MountError.data)
  let templateText ← asMount (ask source templateName)
  let template ← ofExcept ((parseMarkup templateText.trim).mapError fun e => .render (.markup e))
  if template.children.isEmpty then throw (.emptyTemplate templateName)
  let nodes ← asMount (render settings (some source) template data)
  pure (mount target nodes inPlace)
where
  /-- Rendering as a part of mounting. -/
  asMount {α : Type} (rendering : Rendering σ α) : ExceptT MountError (StateM σ) α :=
    rendering.adapt .render
  /-- A result that uses no source. -/
  ofExcept {α : Type} : Except MountError α → ExceptT MountError (StateM σ) α
    | .ok a => pure a
    | .error e => throw e

end TreeTemplate
