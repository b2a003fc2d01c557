import DeviceGrant.Failure
set_option autoImplicit false

/-! # Authorization requests

A request that has been accepted: the client it is for, the scope it was granted, and all of its
parameters after normalisation, among them the client id itself. A request never changes after it
has been made, and its parameters are its own copy: every attempt to change it is a failure. -/

namespace DeviceGrant

/-- The name of the parameter that carries the client id. -/
def clientIdParameter : String := "client_id"

/-- The name of the parameter that lists the requested scope. -/
def scopeParameter : String := "scope"

/-- An accepted authorization request. -/
structure AuthorizationRequest where
  clientId : String
  scope : Scope
  parameters : Table String
deriving DecidableEq

namespace AuthorizationRequest

/-- The name of the structure in reports. -/
def subject : String := "AuthorizationRequest"

/-- Checks a request and all of its parts. -/
def check (v : Value) : Checked AuthorizationRequest := do
  let es ← Check.fields v
  .combine (fun f p => f p)
    (.combine (fun clientId scope => AuthorizationRequest.mk clientId scope)
      (Check.required "client_id" Check.text es)
      (Check.optional "scope" Scope.empty Check.scope es))
    (Check.optional "request_parameters" Table.empty (Check.table Check.text) es)

/-- The request as JSON. -/
def toJson (r : AuthorizationRequest) : Json :=
  .object [("client_id", .text r.clientId),
    ("scope", .list (r.scope.names.map .text)),
    ("request_parameters", .object (r.parameters.entries.map fun e => (e.1, .text e.2)))]

/-- An attempt to change a request that has been made. -/
inductive Change
  | setParameter (name value : String)
  | removeParameter (name : String)
  | setField (name : String)

/-- The request after an attempt to change it. -/
def change (_ : AuthorizationRequest) : Change → Except Failure AuthorizationRequest
  | .setParameter .. => .error (.readOnlyEntries "assignment")
  | .removeParameter _ => .error (.readOnlyEntries "deletion")
  | .setField name => .error (.invalid ⟨subject, [⟨[.field name], .readOnly⟩]⟩)

end AuthorizationRequest

end DeviceGrant
