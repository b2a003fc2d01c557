import DeviceGrant.Text.Percent
import DeviceGrant.Url.Split
import DeviceGrant.Validation
set_option autoImplicit false

/-! # Requests and responses

A request as the host of the service hands it over: its path has no escapes any more, and the names
of its headers are in small letters. The address of a request is put together from these parts; the
`Host` header takes part in it if it is a host with an optional port, and else the name and port of
the host of the service do. -/

namespace DeviceGrant.Http

/-- A request. -/
structure Request where
  method : String
  scheme : String
  /-- The name of the host of the service. -/
  server : String
  /-- The port on which the host is reached. -/
  port : Int
  /-- The part of the path that the host of the service has taken for itself. -/
  rootPath : String
  path : String
  query : String
  headers : List (String × String)
  body : List UInt8
  /-- What earlier handling has found out about the caller. -/
  principal : Option Value

/-- The content of a response. -/
inductive Content
  | none
  | text (s : String)
  | json (j : Json)

/-- A response; the names of its headers are in small letters. -/
structure Response where
  status : Nat
  headers : List (String × String)
  content : Content

namespace Content

/-- The type of a content. -/
def type? : Content → Option String
  | none => .none
  | text _ => some "text/plain; charset=utf-8"
  | json _ => some "application/json"

end Content

namespace Response

/-- A response with a JSON body; the given headers may say that it is of another type. -/
def ofJson (status : Nat) (j : Json) (headers : List (String × String)) : Response :=
  ⟨status, headers, .json j⟩

/-- The value of a header. -/
def header? (r : Response) (name : String) : Option String :=
  (r.headers.find? fun e => e.1 = name).map (·.2)

/-- All headers, the type of the content among them. -/
def allHeaders (r : Response) : List (String × String) :=
  match r.header? "content-type", r.content.type? with
  | none, some t => r.headers ++ [("content-type", t)]
  | _, _ => r.headers

/-- A response with further headers. -/
def withHeaders (r : Response) (headers : List (String × String)) : Response :=
  { r with headers := r.headers ++ headers }

end Response

/-! ## Hosts -/

/-- A character of the name of a host. -/
def isHostChar (c : Char) : Bool := Text.isUnreserved c || "%!$&'()*+,;=".toList.contains c

/-- A character of a numeric address between brackets. -/
def isAddressChar (c : Char) : Bool := (Text.hexValue? c).isSome || c = ':' || c = '.'

/-- Whether what stands behind a host is nothing or a port. -/
def isPort : List Char → Bool
  | [] => true
  | ':' :: ds => ds.all Char.isDigit
  | _ => false

/-- Whether a text is a host with an optional port. -/
def isHost : List Char → Bool
  | '[' :: cs =>
    let address := cs.takeWhile isAddressChar
    match cs.drop address.length with
    | ']' :: rest => !address.isEmpty && isPort rest
    | _ => false
  | cs =>
    let name := cs.takeWhile isHostChar
    !name.isEmpty && isPort (cs.drop name.length)

namespace Request

/-- The value of a header. -/
def header? (r : Request) (name : String) : Option String :=
  (r.headers.find? fun e => e.1 = name).map (·.2)

/-- The port that a scheme has by itself. -/
def ownPort? (scheme : String) : Option Int :=
  if scheme = "http" || scheme = "ws" then some 80
  else if scheme = "https" || scheme = "wss" then some 443
  else none

/-- The host in the address of a request. -/
def host (r : Request) : String :=
  match (r.header? "host").filter fun h => isHost h.toList with
  | some h => h
  | none =>
    if ownPort? r.scheme = some r.port then r.server
    else r.server ++ ":" ++ toString r.port

/-- The address of a request with the given path. -/
def urlWith (r : Request) (path : String) : String :=
  r.scheme ++ "://" ++ r.host ++ path ++ (if r.query.isEmpty then "" else "?" ++ r.query)

/-- The address of a request without query. -/
def baseUrl (r : Request) : Except UrlFault String :=
  (Url.withoutQuery (r.urlWith r.path).toList).map String.ofList

/-- A path without the part that the host of the service has taken for itself. -/
def stripRoot (root path : List Char) : List Char :=
  if root.isPrefixOf path then
    match path.drop root.length with
    | [] => []
    | '/' :: cs => '/' :: cs
    | _ => path
  else path

/-- The path by which a request with the given path is routed. -/
def routePathOf (r : Request) (path : String) : String :=
  if r.rootPath.isEmpty then path
  else String.ofList (stripRoot r.rootPath.toList path.toList)

/-- The path by which a request is routed. -/
def routePath (r : Request) : String := r.routePathOf r.path

end Request

end DeviceGrant.Http
