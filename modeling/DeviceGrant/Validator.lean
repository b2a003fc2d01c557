import DeviceGrant.Principal
import DeviceGrant.Registry
import DeviceGrant.Request
set_option autoImplicit false

/-! # Validating requests

A request is accepted when its caller is authenticated, the client it names is the one for which
the caller may ask, that client is registered, and the scope it asks for lies within the client's.
A request that names no client is for the client of the caller's name; one that asks for no scope
gets the client's whole scope. The first condition that is not met decides the refusal. -/

namespace DeviceGrant

/-- The scope that a request asks for. -/
def requestedScope (parameters : Table String) : Scope :=
  match parameters.get? scopeParameter with
  | some s => .parse s
  | none => .empty

/-- Whether a scope lies within that of a client. -/
def Client.checkScope (c : Client) (requested : Scope) : Logged (Except Failure Unit) :=
  let excess := requested.diff c.scope
  if excess.isEmpty then .silent (.ok ())
  else ⟨.error (.refused (.scopeNotAllowed excess c.scope)),
    [.invalidScopes c.clientId excess.names]⟩

namespace Principal

/-- The parameters of a request with the client id that they stand for. -/
def normalize (p : Principal) (parameters : Table String) :
    Logged (Except Failure (Table String)) :=
  let asked := (parameters.get? clientIdParameter).getD ""
  if asked.isEmpty then .silent (.ok (parameters.put clientIdParameter p.name))
  else if asked = p.effectiveClientId then .silent (.ok parameters)
  else ⟨.error (.refused (.clientMismatch asked p.effectiveClientId)),
    [.clientIdMismatch asked p.effectiveClientId]⟩

/-- A caller that is there and authenticated. -/
def authenticated? (p : Option Principal) : Option Principal := p.filter (·.isAuthenticated)

end Principal

/-- The accepted request for a client, whose scope was found to be within the client's. -/
def acceptedRequest (clientId : String) (client : Client) (normalized : Table String) :
    AuthorizationRequest :=
  let requested := requestedScope normalized
  ⟨clientId, if requested.isEmpty then client.scope else requested, normalized⟩

namespace Registry

/-- Validates a request for a client that has been looked up. -/
def validateFor (clientId : String) (client : Client) (normalized : Table String) :
    Logged (Except Failure (AuthorizationRequest × Client)) :=
  let checked := client.checkScope (requestedScope normalized)
  match checked.value with
  | .error f => ⟨.error f, checked.events⟩
  | .ok _ => ⟨.ok (acceptedRequest clientId client normalized, client),
      checked.events ++ [.requestValidated clientId]⟩

/-- Validates a request, and gives the client that it is for beside it. -/
def validate (r : Registry) (parameters : Table String) (principal : Option Principal) :
    Logged (Except Failure (AuthorizationRequest × Client)) × Registry :=
  match Principal.authenticated? principal with
  | none => (.silent (.error (.refused (.unauthenticated Refusal.unauthenticatedMessage))), r)
  | some p =>
    let normalized := p.normalize parameters
    match normalized.value with
    | .error f => (⟨.error f, normalized.events⟩, r)
    | .ok parameters =>
      let clientId := (parameters.get? clientIdParameter).getD ""
      if clientId.isEmpty then
        (⟨.error (.refused (.missingClientId Refusal.missingClientIdMessage)), normalized.events⟩, r)
      else
        let (found, r) := r.lookup clientId
        match found.value with
        | .error f => (⟨.error f, normalized.events ++ found.events⟩, r)
        | .ok none =>
          (⟨.error (.refused (.unknownClient clientId)), normalized.events ++ found.events⟩, r)
        | .ok (some client) =>
          let accepted := validateFor clientId client parameters
          (⟨accepted.value, normalized.events ++ found.events ++ accepted.events⟩, r)

end Registry

/-- The caller that earlier handling of a request has identified. Data that describes no caller
counts as none, with a warning. -/
def Principal.resolve (data : Option Value) : Logged (Option Principal) :=
  match data with
  | none => .silent none
  | some .null => .silent none
  | some v =>
    match Principal.check v with
    | .ok p => .silent (some p)
    | .error issues => ⟨none, [.principalIgnored issues.length]⟩

end DeviceGrant
