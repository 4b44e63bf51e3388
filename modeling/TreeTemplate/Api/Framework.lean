/-
TreeTemplate.Api.Framework — what stands around the service.

The service is a handful of routes. What brings a request to its route, reads
its body and sends the reply is not part of it, but a framework that others
have written. So `Framework` is a structure, and what is proved of the service
is proved for each of its values. `Framework.standard` is the one that the
service is run with: it follows what the framework says of itself, as far as
requests can show it.

* `Route` — what the service offers, with the paths and methods for it.
* `Framework` — how requests come to routes, bodies are read and replies sent.
* `Framework.standard` — the framework that is used.
-/
import TreeTemplate.Api.RenderRequest
import TreeTemplate.Web.Resolution

namespace TreeTemplate

/-! ## 1. Requests -/

/-- What a request wants done. -/
inductive Method where
  | get
  | post
  | other
deriving DecidableEq

/-- A request: the path without a query, and the bytes of the body. -/
structure ApiRequest where
  method : Method
  path : Text
  body : List Nat
deriving DecidableEq

/-- The address of the service. -/
def serviceAddress : Text := "http://testserver"

/-- The path at the service that an address below it leads to. -/
def pathOf (address : Text) : Except UrlError Text := do
  let url ← (← Url.ofText serviceAddress).below address
  let _ ← url.hostName
  return url.pathName

/-- What the service offers. -/
inductive Route where
  | health
  | directives
  | render
deriving DecidableEq

namespace Route

def all : List Route := [health, directives, render]

def path : Route → Text
  | health => "/health"
  | directives => "/api/v1/directives"
  | render => "/api/v1/render"

def method : Route → Method
  | health => .get
  | directives => .get
  | render => .post

end Route

/-! ## 2. Frameworks -/

/-- What brings requests to routes and replies on their way. -/
structure Framework where
  /-- The route that a request goes to, or the reply to it if there is none. -/
  dispatch : Method → Text → Except Reply Route
  /-- The request for rendering in the bytes of a body, or the reply to it. -/
  readBody : List Nat → Except Reply RenderRequest
  /-- Whether there are bytes for a reply. -/
  canSend : Reply → Bool

namespace Framework

/-- The reply that is sent. What has no bytes ends as a failure of the
service. -/
def sent (framework : Framework) (reply : Reply) : Reply :=
  if framework.canSend reply then reply else .crashed

/-! ## 3. The standard framework -/

/-- The path without slashes at its end. -/
def withoutFinalSlashes (path : Text) : Text :=
  (path.reverse.dropWhile (· = .scalar '/')).reverse

/-- The route of a path. Slashes at the end lead to the path without. -/
def routeOf? (path : Text) : Option Route :=
  Route.all.find? fun route => route.path = withoutFinalSlashes path

/-- The paths of descriptions of the service, which are not part of it. -/
def descriptions : List Text := ["/docs", "/docs/oauth2-redirect", "/redoc", "/openapi.json"]

/-- Whether there is nothing to do at a path but to read a description. -/
def isReadOnly (path : Text) : Bool := descriptions.contains (withoutFinalSlashes path)

/-- The reply to a request for what there is not. -/
def notFound : Reply := .refused 404 "Not Found"

/-- The reply to a request that wants done what cannot be done. -/
def notAllowed : Reply := .refused 405 "Method Not Allowed"

/-- The route of a request, found by its path and then by its method. -/
def routeFor (method : Method) (path : Text) : Except Reply Route :=
  match routeOf? path with
  | none => .error (if isReadOnly path && method ≠ .get then notAllowed else notFound)
  | some route => if route.method = method then .ok route else .error notAllowed

/-- The framework that is used. -/
def standard : Framework where
  dispatch := routeFor
  readBody := RenderRequest.ofBody
  canSend := Reply.isWritable

end Framework

end TreeTemplate
