/-
TreeTemplate.Api.Service — rendering as a service (specification §14).

The service tells how it is, tells what directives there are, and renders
templates. Partials are taken from the request first, then from the loader
that the configuration describes; the service keeps that loader from
request to request.

* `Service.start` — a service at its start.
* `renderReply` — the reply to a request for rendering.
* `Service.handle` — the reply to any request in a framework, and the service
  afterwards.
-/
import TreeTemplate.Api.Framework
import TreeTemplate.Api.Vocabulary
import TreeTemplate.Log.Setup
import TreeTemplate.Site.Page

namespace TreeTemplate

/-! ## 1. Rendering -/

/-- The loader for a request: its own partials, then the loader of the
service if there is one. -/
def inlineFirst (partials : Table Text) (fallback : Option PartialLoader) : PartialLoader :=
  let inline : PartialLoader := .leaf (.memory ⟨partials, []⟩)
  match fallback with
  | none => inline
  | some loader => .chain inline [loader]

/-- The loader of the service inside the loader for a request. -/
def fallbackOf : PartialLoader → Option PartialLoader
  | .chain _ [loader] => some loader
  | _ => none

/-- Whether a partial that cannot be loaded has no reply of its own: what
was asked for makes no sense, or is no text. -/
def isSenseless : LoadError → Bool
  | .nullByte | .address _ | .unspelled _ | .undecoded _ | .uncountable => true
  | _ => false

/-- The reply to a failure. Templates that ask for the impossible and
inclusions that fail have replies of their own. -/
def failureReply (error : RenderError) : Reply :=
  match error with
  | .notIterable .. => .refused 422 error.message
  | .tooDeep .. => .refused 422 error.message
  | .load e =>
    if isSenseless e then .crashed
    else .refused 502 (("Include failed: " : Text) ++ e.message)
  | _ => .crashed

/-- A reply with HTML. -/
def htmlReply (html : Text) : Reply := .success (.dict [("html", .str html)])

/-- The element to mount into. The text of a target holds exactly one. -/
def readTarget (t : Text) : Except Reply Node :=
  match parseMarkup t.trim with
  | .error _ => .error .crashed
  | .ok root =>
    match root.children.filter Node.isElement with
    | [target] => .ok target
    | elements => .error (.refused 400
        (("Target must be a single element, got " : Text) ++ Text.ofNat elements.length))

/-- The template of a request and its target. -/
def readTemplate (request : RenderRequest) : Except Reply (Node × Option Node) :=
  match parseMarkup request.template.trim with
  | .error _ => .error .crashed
  | .ok template =>
    if template.children.isEmpty then .error (.refused 400 "Template is empty")
    else match request.target with
      | none => .ok (template, none)
      | some t => (readTarget t).map fun target => (template, some target)

/-- The reply with rendered nodes, mounted if there is a target. -/
def nodesReply (target : Option Node) (inPlace : Bool) (nodes : List Node) : Reply :=
  match target with
  | none => htmlReply (toHtml nodes)
  | some target => htmlReply (mount target nodes inPlace).toHtml

/-- The reply to a request for rendering, and the loader of the service
afterwards. -/
def renderReply (settings : Settings) (now : Double) (request : RenderRequest)
    (fallback : Option PartialLoader) : Reply × Option PartialLoader :=
  match readTemplate request with
  | .error reply => (reply, fallback)
  | .ok (template, target) =>
    let (result, after) := render settings (some (PartialLoader.source now)) template request.data
      (inlineFirst request.partials fallback)
    (match result with
      | .error e => failureReply e
      | .ok nodes => nodesReply target request.inPlace nodes,
    fallbackOf after)

/-! ## 2. Requests -/

/-- The service between two requests. -/
structure Service where
  configuration : Configuration
  loader : Option PartialLoader

namespace Service

/-- A service that begins, once its logging has been set up. -/
def start (environment : Table Text) (files : Files) : Except LogSetupError Service :=
  let (logging, files) := setupLogging environment ⟨none, none, none⟩ files
  let configuration := Configuration.ofEnvironment environment
  logging.map fun _ => ⟨configuration, configuration.defaultLoader? files⟩

/-- How the service is. -/
def health (service : Service) : Value :=
  .dict [("status", .str "healthy"), ("version", .str version),
    ("loader", match service.loader with
      | some loader => .str loader.name
      | none => .null)]

/-- The reply of a route, and the service afterwards. -/
def answer (framework : Framework) (now : Double) (request : ApiRequest) (service : Service) :
    Route → Reply × Service
  | .health => (.success service.health, service)
  | .directives => (.success (vocabulary service.configuration.openings), service)
  | .render =>
    match framework.readBody request.body with
    | .error reply => (reply, service)
    | .ok wanted =>
      let (reply, after) := renderReply service.configuration.settings now wanted service.loader
      (reply, { service with loader := after })

/-- The reply to a request, and the service afterwards. -/
def handle (framework : Framework) (now : Double) (request : ApiRequest) (service : Service) :
    Reply × Service :=
  match framework.dispatch request.method request.path with
  | .error reply => (reply, service)
  | .ok route =>
    let (reply, after) := service.answer framework now request route
    (framework.sent reply, after)

end Service

end TreeTemplate
