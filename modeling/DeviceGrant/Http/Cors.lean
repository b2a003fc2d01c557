import DeviceGrant.Http.Message
set_option autoImplicit false

/-! # Calls from other origins

A browser asks before a page of another origin may call the service, and shows the page an answer
only if the answer allows it. The service allows the origins it is configured with, `*` standing
for all of them, and lets the page send credentials, so it names the single origin that asked. -/

namespace DeviceGrant.Http.Cors

/-- The methods that pages of other origins may use. -/
def methods : List String := ["GET", "POST", "OPTIONS"]

/-- For how many seconds a browser may remember an answer to its question. -/
def maxAge : Nat := 600

/-- Whether an origin may call. -/
def allows (origins : List String) (origin : String) : Bool :=
  origins.contains "*" || origins.contains origin

/-- The header that names the origin, if it may call. -/
def originHeader (origins : List String) (origin : String) : List (String × String) :=
  if allows origins origin then [("access-control-allow-origin", origin)] else []

/-- The header that allows credentials. -/
def credentials : String × String := ("access-control-allow-credentials", "true")

/-- The headers of an answer to a call. -/
def callHeaders (origins : List String) (r : Request) : List (String × String) :=
  ("vary", "Origin") ::
    match r.header? "origin" with
    | some origin => credentials :: originHeader origins origin
    | none => []

/-- The origin and the method that a browser asks for, if a request is such a question. -/
def question? (r : Request) : Option (String × String) :=
  if r.method = "OPTIONS" then
    match r.header? "origin", r.header? "access-control-request-method" with
    | some origin, some method => some (origin, method)
    | _, _ => none
  else none

/-- What a question asks for and may not have. -/
def refused (origins : List String) (r : Request) (origin method : String) : List String :=
  (if allows origins origin then [] else ["origin"]) ++
    (if methods.contains method then [] else ["method"]) ++
    if (r.header? "access-control-request-private-network").isSome then ["private-network"] else []

/-- The answer to a question. -/
def answer (origins : List String) (r : Request) (origin method : String) : Response :=
  let headers :=
    [("vary", "Origin, Access-Control-Request-Method, Access-Control-Request-Headers, " ++
        "Access-Control-Request-Private-Network"),
      ("access-control-allow-methods", String.intercalate ", " methods),
      ("access-control-max-age", toString maxAge), credentials] ++
    originHeader origins origin ++
    match r.header? "access-control-request-headers" with
    | some names => [("access-control-allow-headers", names)]
    | none => []
  match refused origins r origin method with
  | [] => ⟨200, headers, .text "OK"⟩
  | parts => ⟨400, headers, .text ("Disallowed CORS " ++ String.intercalate ", " parts)⟩

end DeviceGrant.Http.Cors
