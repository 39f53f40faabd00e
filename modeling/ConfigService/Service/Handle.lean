import ConfigService.Html.Page
import ConfigService.Http.MediaType
import ConfigService.Http.Target
import ConfigService.Service.Answer
import ConfigService.Service.ApiDocument
import ConfigService.Service.Route
import ConfigService.Settings.Basic
import ConfigService.Store.Access
/-!
# Handle — the service answers requests

A request finds its route by its path and its handler by its method.  A handler reads or changes the configuration and
makes a response; around it come the length of the body, the time it took, and the headers that let pages of any origin
use the answer.  Such pages ask first with `OPTIONS`, which is answered on every path without a handler.

A handler of `POST /config` judges the declared type of the body, its size, its form and the update it spells, in that
order; only an update that passes reaches the store.
-/
namespace ConfigService

open Http (Request Response Target)

/-- What the clock says while a request is served: the time, and the microseconds it takes. -/
structure Reading where
  now : Timestamp
  elapsed : Nat

/-- The service: how it writes, and the store it works on. -/
structure Service where
  sortKeys : Bool
  shared : Shared

namespace Service

/-- The service with given settings on a repository. -/
def start (settings : Settings) (repository : Repository) : Service :=
  ⟨settings.sortKeys, ⟨settings.initialConfig, repository, none, false⟩⟩

/-! ## Handlers -/

/-- A response or the response to an error. -/
def orError : Except ServiceError Response → Response
  | .ok r => r
  | .error e => e.response

/-- A configuration as a response. -/
def configResponse (sortKeys : Bool) : Except StorageError Config → Response
  | .ok c => orError (payloadResponse sortKeys 200 c.payload)
  | .error e => (ServiceError.ofStorage e).response

/-- A page with a configuration as a response. -/
def pageResponse (sortKeys : Bool) (page : Page) : Except StorageError Config → Response
  | .ok c =>
    match c.encode sortKeys with
    | .ok text => .html 200 (String.ofList (page.render text.toList))
    | .error e => (ServiceError.encoding e).response
  | .error e => (ServiceError.ofStorage e).response

/-- The path that redirects lead to. -/
def explorePath : List Char := Route.explore.path

/-- A redirect for good. -/
def redirect (target : List Char) : Response :=
  if target.all Http.isHeaderChar then
    (Response.html 301 (String.ofList (redirectPage target))).withHeader ("location", String.ofList target)
  else .plain 500 "failed to parse header value"

/-- The target of a redirect that keeps the query. -/
def reviewTarget : Option (List Char) → List Char
  | some (c :: query) => explorePath ++ '?' :: c :: query
  | _ => explorePath

/-- The bytes that a body may have. -/
def bodyLimit : Nat := 2097152

/-- Why a body is no update, as a response. -/
def bodyFault (t : Text) (f : Json.Fault) : Response :=
  match f.cause.category with
  | .wrongContent =>
    .plain 422 ("Failed to deserialize the JSON body into the target type: " ++ f.messageInField t)
  | _ => .plain 400 ("Failed to parse the request body as JSON: " ++ f.messageInField t)

/-- The update that a request carries, or the response to a request that carries none. -/
def updateOf (r : Request) : Except Response Update :=
  if Http.declaresJson r.headers then
    if r.body.width ≤ bodyLimit then
      match Update.read r.body with
      | .error f => .error (bodyFault r.body f)
      | .ok u =>
        match u.validate with
        | .ok () => .ok u
        | .error e => .error e.response
    else .error (.plain 413 "Failed to buffer the request body: length limit exceeded")
  else .error (.plain 415 "Expected request with `Content-Type: application/json`")

/-- The handler of `GET`. -/
def get (query : Option (List Char)) : Route → Service → Response × Service
  | .root, s => (redirect explorePath, s)
  | .review, s => (redirect (reviewTarget query), s)
  | .explore, s =>
    let (answer, shared) := s.shared.get
    (pageResponse s.sortKeys .explore answer, { s with shared })
  | .dashboardAdmin, s =>
    let (answer, shared) := s.shared.get
    (pageResponse s.sortKeys .dashboardAdmin answer, { s with shared })
  | .config, s =>
    let (answer, shared) := s.shared.get
    (configResponse s.sortKeys answer, { s with shared })
  | .apiDocument, s => (orError (payloadResponse s.sortKeys 200 (.value ApiDocument.document)), s)

/-- The handler of `POST /config`. -/
def post (now : Timestamp) (r : Request) (s : Service) : Response × Service :=
  match updateOf r with
  | .error response => (response, s)
  | .ok u =>
    let (answer, shared) := s.shared.update u now
    (configResponse s.sortKeys answer, { s with shared })

/-- The response where a route has no such method. -/
def noMethod (route : Route) : Response := ⟨405, [("allow", route.allow)], ""⟩

/-- The response where there is no route. -/
def notFound : Response := .plain 404 "The requested resource was not found"

/-- The handler of a request is found and run. -/
def dispatch (now : Timestamp) (r : Request) (s : Service) : Response × Service :=
  let target := Target.read r.target
  match Route.ofPath? target.path with
  | none => (notFound, s)
  | some route =>
    if r.method = "GET" ∨ r.method = "HEAD" then get target.query route s
    else if r.method = "POST" ∧ route = .config then post now r s
    else (noMethod route, s)

/-! ## Around the handlers -/

/-- The headers that let pages of any origin use a response. -/
def originHeaders : List Http.Header :=
  [("access-control-allow-origin", "*"), ("access-control-expose-headers", "*"),
    ("vary", "origin, access-control-request-method, access-control-request-headers")]

/-- The time it took, in milliseconds with three decimals. -/
def timing (elapsed : Nat) : String :=
  "app;dur=" ++ toString (elapsed / 1000) ++ "." ++ String.ofList (padded 3 elapsed)

/-- A response with the length of its body. -/
def withLength (r : Response) : Response := r.withHeader ("content-length", toString r.body.utf8ByteSize)

/-- The answer to a page that asks what it may do. -/
def preflight (path : List Char) : Response :=
  let allow : List Http.Header :=
    match Route.ofPath? path with
    | some route => [("allow", route.allow)]
    | none => []
  ⟨200, [("access-control-allow-headers", "*"), ("access-control-allow-methods", "*"),
    ("access-control-allow-origin", "*"), ("content-length", "0"),
    ("vary", "origin, access-control-request-method, access-control-request-headers")] ++ allow, ""⟩

/-- The service answers a request. -/
def handle (reading : Reading) (r : Request) (s : Service) : Response × Service :=
  if r.method = "OPTIONS" then (preflight (Target.read r.target).path, s)
  else
    let (response, s) := dispatch reading.now r s
    let response := withLength response
    let response := if r.method = "HEAD" then { response with body := "" } else response
    ({ response with
        headers := originHeaders ++ ("server-timing", timing reading.elapsed) :: response.headers }, s)

/-- The service answers requests one after another. -/
def handleAll : List (Reading × Request) → Service → List Response × Service
  | [], s => ([], s)
  | (reading, r) :: rest, s =>
    let (response, s) := handle reading r s
    let (responses, s) := handleAll rest s
    (response :: responses, s)

end Service

end ConfigService
