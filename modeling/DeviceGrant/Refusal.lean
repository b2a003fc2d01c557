import DeviceGrant.Response
set_option autoImplicit false

/-! # Refusals

A refusal is an answer that the protocol foresees: the caller is not authenticated, asks for a
client that is not its own or not known, asks for more than the client may have, or no free pair
of codes was found. Each has an error code and a status for the answer, and a message. -/

namespace DeviceGrant

/-- Why an authorization is refused. -/
inductive Refusal
  /-- A failure of the flow that is none of the others. -/
  | general (message : String)
  /-- The caller is missing or not authenticated. -/
  | unauthenticated (message : String)
  /-- A failure to identify the client that is none of the next three. -/
  | invalidClient (message : String)
  /-- Neither the request nor the caller gives a client id. -/
  | missingClientId (message : String)
  /-- The requested client is not the one for which the caller may ask. -/
  | clientMismatch (requested authenticated : String)
  /-- The client is not registered. -/
  | unknownClient (clientId : String)
  /-- The request goes beyond the scope of the client. -/
  | scopeNotAllowed (invalid allowed : Scope)
  /-- No free pair of codes was found in the allowed number of attempts. -/
  | exhausted (attempts : Int)
deriving DecidableEq

namespace Refusal

/-- The message for a caller that is not authenticated. -/
def unauthenticatedMessage : String :=
  "User must be authenticated before device authorization can be completed."

/-- The message for a client id that is missing. -/
def missingClientIdMessage : String := "A client id must be provided"

/-- The name by which log lines call a refusal. -/
def word : Refusal → String
  | general _ => "DeviceAuthorizationError"
  | unauthenticated _ => "UnauthenticatedError"
  | invalidClient _ => "InvalidClientError"
  | missingClientId _ => "MissingClientIdError"
  | clientMismatch .. => "ClientMismatchError"
  | unknownClient _ => "UnknownClientError"
  | scopeNotAllowed .. => "ScopeNotAllowedError"
  | exhausted _ => "CodeGenerationExhaustedError"

/-- The message of a refusal. -/
def message : Refusal → String
  | general m => m
  | unauthenticated m => m
  | invalidClient m => m
  | missingClientId m => m
  | clientMismatch .. => "Given client ID does not match authenticated client"
  | unknownClient c => "No client with requested id: " ++ c
  | scopeNotAllowed invalid _ => "Invalid scope: " ++ String.intercalate " " invalid.names
  | exhausted n =>
    "Unable to generate unique device codes after " ++ toString n ++ " attempts"

/-- The error code in the answer. -/
def errorCode : Refusal → String
  | general _ => "server_error"
  | unauthenticated _ => "unauthorized"
  | scopeNotAllowed .. => "invalid_scope"
  | exhausted _ => "server_error"
  | _ => "invalid_client"

/-- The status of the answer. -/
def status : Refusal → Nat
  | general _ => 500
  | scopeNotAllowed .. => 400
  | exhausted _ => 500
  | _ => 401

/-- The body of the answer. -/
def body (r : Refusal) : ErrorBody := .ofMessage r.errorCode (some r.message)

end Refusal

end DeviceGrant
