import DeviceGrant.Failure
import DeviceGrant.Mask
import DeviceGrant.Value
set_option autoImplicit false

/-! # Events

What happens beside the results is told by events. An event carries what it is about; its level
and its line are fixed here and nowhere else, and the two codes of a record appear in a line only
through their masks.

`Logged` is a value with the events on the way to it, in their order. -/

namespace DeviceGrant

/-- The weight of an event. -/
inductive LogLevel
  | debug
  | info
  | warning
  | error
deriving DecidableEq, Repr

/-- The word for a level. -/
def LogLevel.word : LogLevel → String
  | debug => "DEBUG"
  | info => "INFO"
  | warning => "WARNING"
  | error => "ERROR"

/-- Something that happened. -/
inductive Event
  | invalidScopes (clientId : String) (scopes : List String)
  | clientIdMismatch (requested authenticated : String)
  | requestValidated (clientId : String)
  | overrideIgnored (name : String) (raw : Value)
  | codesGenerated (clientId userCode deviceCode : String)
  | codeCollision (attempt limit : Int)
  | codesExhausted (attempts : Int) (clientId : String)
  | sharedCollision (deviceCode userCode : String)
  | memoryCleaned (count : Nat)
  | sharedCleaned (count : Nat)
  | sweepFailed (failure : Failure)
  | sweeperStarted (interval : String)
  | sweeperStopped
  | principalIgnored (errors : Nat)
  | storeConnected (url : String)
  | storeConnectionFailed (url message : String)
  | clientsFileMissing (path : String)
  | clientsFileUnreadable
  | clientsSectionIgnored (kind : String)
  | clientEntryNotMapping (clientId kind : String)
  | clientScopeMalformed (clientId : String)
  | clientEntryInvalid (clientId : String) (rejection : Rejection)
  | clientsLoaded (count : Nat) (path : String)
  | clientNotFound (clientId : String)
  | apiPrefix (path : String)
  | corsOrigins (origins : List String)
  | serverStarting (host : String) (port : Int)
  | refusalHandled (r : Refusal)
  | statusHandled (detail : Value)
  | failureHandled (f : Failure)

namespace Event

/-- The level of an event. -/
def level : Event → LogLevel
  | invalidScopes .. => .warning
  | clientIdMismatch .. => .warning
  | requestValidated _ => .debug
  | overrideIgnored .. => .warning
  | codesGenerated .. => .info
  | codeCollision .. => .warning
  | codesExhausted .. => .error
  | sharedCollision .. => .debug
  | memoryCleaned _ => .info
  | sharedCleaned _ => .info
  | sweepFailed _ => .error
  | sweeperStarted _ => .info
  | sweeperStopped => .info
  | principalIgnored _ => .warning
  | storeConnected _ => .info
  | storeConnectionFailed .. => .error
  | clientsFileMissing _ => .warning
  | clientsFileUnreadable => .error
  | clientsSectionIgnored _ => .error
  | clientEntryNotMapping .. => .error
  | clientScopeMalformed _ => .error
  | clientEntryInvalid .. => .error
  | clientsLoaded .. => .info
  | clientNotFound _ => .debug
  | apiPrefix _ => .info
  | corsOrigins _ => .info
  | serverStarting .. => .info
  | refusalHandled r => if 500 ≤ r.status then .error else .info
  | statusHandled _ => .info
  | failureHandled _ => .error

/-- A list of texts as log lines show it. -/
def quotedTexts (ss : List String) : String :=
  "[" ++ String.intercalate ", " (ss.map Text.quoted) ++ "]"

/-- The line of an event. -/
def line : Event → String
  | invalidScopes c ss =>
    "Invalid scopes requested by client " ++ c ++ ": " ++ quotedTexts ss
  | clientIdMismatch r a => "Client id mismatch: requested " ++ r ++ ", authenticated " ++ a
  | requestValidated c => "Validated device authorization request for client " ++ c
  | overrideIgnored n raw =>
    "Ignoring malformed " ++ n ++ " override " ++ raw.quoted ++ ", using default"
  | codesGenerated c u d =>
    "Generated device code for client_id: " ++ c ++ ", user_code: " ++ Mask.userCode u ++
      ", device_code: " ++ Mask.id d
  | codeCollision n limit =>
    "Device code collision on attempt " ++ toString n ++ "/" ++ toString limit ++
      ", regenerating"
  | codesExhausted n c =>
    "Device code generation exhausted after " ++ toString n ++ " attempts for client_id: " ++ c ++
      "; check the entropy source and code space"
  | sharedCollision d u =>
    "Code collision in Redis for device_code " ++ Mask.id d ++ " / user_code " ++ Mask.userCode u
  | memoryCleaned n => "Cleaned up " ++ toString n ++ " expired device codes"
  | sharedCleaned n => "Cleaned up " ++ toString n ++ " expired device codes from Redis"
  | sweepFailed f => "Expired device code sweep failed: " ++ f.message
  | sweeperStarted i => "Started expired device code sweeper (interval: " ++ i ++ "s)"
  | sweeperStopped => "Stopped expired device code sweeper"
  | principalIgnored n =>
    "Ignoring malformed principal on request state: " ++ toString n ++ " errors"
  | storeConnected url => "Successfully connected to Redis: " ++ url
  | storeConnectionFailed url m => "Failed to connect to Redis at " ++ url ++ ": " ++ m
  | clientsFileMissing path => "Clients config file not found at " ++ path
  | clientsFileUnreadable => "Failed to load clients configuration"
  | clientsSectionIgnored kind =>
    "Ignoring clients section: expected a mapping, got " ++ kind
  | clientEntryNotMapping c kind =>
    "Skipping invalid client entry '" ++ c ++ "': expected a mapping, got " ++ kind
  | clientScopeMalformed c =>
    "Skipping invalid client entry '" ++ c ++ "': scope must be a list or a string"
  | clientEntryInvalid c r => "Skipping invalid client entry '" ++ c ++ "': " ++ r.summary
  | clientsLoaded n path => "Loaded " ++ toString n ++ " clients from " ++ path
  | clientNotFound c => "Client not found in registry: " ++ c
  | apiPrefix path => "Device auth server API prefix: '" ++ path ++ "'"
  | corsOrigins os => "CORS origins configured: " ++ quotedTexts os
  | serverStarting host port =>
    "Starting device auth server on " ++ host ++ ":" ++ toString port
  | refusalHandled r => "Handling error: " ++ r.word ++ ", " ++ r.message
  | statusHandled detail => "Handling error: HTTPException, " ++ detail.toText
  | failureHandled f => "Handling error: " ++ f.word ++ ", " ++ f.message

end Event

/-- A value and the events on the way to it. -/
structure Logged (α : Type) where
  value : α
  events : List Event

namespace Logged

variable {α β : Type}

/-- A value without events. -/
def silent (a : α) : Logged α := ⟨a, []⟩

/-- The same events with a value made from the old one. -/
def map (f : α → β) (x : Logged α) : Logged β := ⟨f x.value, x.events⟩

end Logged

end DeviceGrant
