import DeviceGrant.Http.Cors
import DeviceGrant.Http.Form
import DeviceGrant.Http.Report
import DeviceGrant.Logging
import DeviceGrant.Service
set_option autoImplicit false

/-! # The site

The site answers requests at two paths: the authorization endpoint, which stands behind the
configured prefix, and a check whether the service is up. A path that is one of them but for
slashes at its end is redirected, and every other path is not found.

The caller of an authorization is what earlier handling has left with the request, and its
parameters are the fields of its form. The form is read before the caller is looked at, so a form
that cannot be read is reported even to a caller that is not authenticated. -/

namespace DeviceGrant.Http

/-- What the site answers at. -/
inductive Endpoint
  | authorize
  | health
deriving DecidableEq, Repr

/-- The method that an endpoint is called with. -/
def Endpoint.method : Endpoint → String
  | authorize => "POST"
  | health => "GET"

/-- A site: the prefix of its authorization endpoint, and the origins that may call it. -/
structure Site where
  routePrefix : String
  origins : List String
deriving DecidableEq, Repr

/-- Where a request leads. -/
inductive Route
  | endpoint (e : Endpoint)
  | redirect (path : String)
  | unknown
deriving DecidableEq, Repr

/-- A response, and the failure behind it that the host of the service should hear of. -/
structure Reply where
  response : Response
  failure : Option Failure

namespace Site

/-- Sets up the site of a deployment. -/
def start (s : Settings) : Logged (Except Failure Site) :=
  match Logging.configure s with
  | .error f => .silent (.error f)
  | .ok _ =>
    let head := s.routePrefix
    if head.isEmpty || head.toList.head? = some '/' then
      ⟨.ok ⟨head, s.origins⟩, [.apiPrefix head, .corsOrigins s.origins]⟩
    else ⟨.error .routePath, [.apiPrefix head]⟩

/-! ## Routes -/

/-- The path of an endpoint. -/
def path (s : Site) : Endpoint → String
  | .authorize => s.routePrefix ++ "/oauth/device_authorize"
  | .health => "/health"

/-- The endpoint at a path; a line end behind the path is passed over. -/
def endpoint? (s : Site) (path : String) : Option Endpoint :=
  [.authorize, .health].find? fun e => path = s.path e || path = s.path e ++ "\n"

/-- Where a request leads. -/
def route (s : Site) (r : Request) : Route :=
  let path := r.routePath
  match s.endpoint? path with
  | some e => .endpoint e
  | none =>
    if path ≠ "/" && path.toList.getLast? = some '/' then
      let shorter := Text.withoutEndSlashes r.path
      match s.endpoint? (r.routePathOf shorter) with
      | some _ => .redirect shorter
      | none => .unknown
    else .unknown

/-- The characters of an address that a redirection keeps. -/
def keptInLocation : List Char := ":/%#?=@[]!$&'()*+,;".toList

/-- The response that redirects a request to another path. -/
def redirection (r : Request) (path : String) : Response :=
  ⟨307, [("location", Text.percentEncode keptInLocation (r.urlWith path))], .none⟩

/-! ## Answers -/

/-- The answer of the check whether the service is up. -/
def healthy : Response :=
  .ofJson 200 (.object [("status", .text "healthy"), ("service", .text "device-auth-server")]) []

/-- The answer of the authorization endpoint. -/
def authorize (v : Service) (now : Instant) (r : Request) (s : ServiceState) :
    Logged (Except Trouble Response) × ServiceState :=
  let caller := Principal.resolve r.principal
  match Form.read ((r.header? "content-type").getD "") r.body with
  | .error f => (⟨.error (.status ⟨400, .text f.message, []⟩), caller.events⟩, s)
  | .ok parameters =>
    match r.baseUrl with
    | .error f => (⟨.error (.failure (.url f)), caller.events⟩, s)
    | .ok baseUrl =>
      let (answer, s) := v.authorize now parameters caller.value ⟨baseUrl⟩ s
      let outcome := match answer.value with
        | .ok a => .ok (.ofJson 200 a.toJson [])
        | .error f => .error (.ofFailure f)
      (⟨outcome, caller.events ++ answer.events⟩, s)

/-- The answer to a request, or the trouble with it. -/
def serve (site : Site) (v : Service) (now : Instant) (r : Request) (s : ServiceState) :
    Logged (Except Trouble Response) × ServiceState :=
  match site.route r with
  | .unknown => (.silent (.error (.status (.ofStatus 404 []))), s)
  | .redirect path => (.silent (.ok (redirection r path)), s)
  | .endpoint e =>
    if r.method ≠ e.method then
      (.silent (.error (.status (.ofStatus 405 [("allow", e.method)]))), s)
    else match e with
      | .health => (.silent (.ok healthy), s)
      | .authorize => authorize v now r s

/-- The reply to a request. The response to a failure says nothing about other origins. -/
def handle (site : Site) (v : Service) (now : Instant) (r : Request) (s : ServiceState) :
    Logged Reply × ServiceState :=
  match Cors.question? r with
  | some (origin, method) => (.silent ⟨Cors.answer site.origins r origin method, none⟩, s)
  | none =>
    let headers := Cors.callHeaders site.origins r
    let (outcome, s) := site.serve v now r s
    match outcome.value with
    | .ok response => (⟨⟨response.withHeaders headers, none⟩, outcome.events⟩, s)
    | .error (.failure f) =>
      let report := Trouble.report r.method (.failure f)
      (⟨⟨report.value, some f⟩, outcome.events ++ report.events⟩, s)
    | .error trouble =>
      let report := Trouble.report r.method trouble
      (⟨⟨report.value.withHeaders headers, none⟩, outcome.events ++ report.events⟩, s)

end Site

end DeviceGrant.Http
