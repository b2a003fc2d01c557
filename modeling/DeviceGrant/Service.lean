import DeviceGrant.Issuer
import DeviceGrant.Override
import DeviceGrant.Validator
set_option autoImplicit false

/-! # The authorization service

A device authorization goes through three steps: the request is validated, a pair of codes is
issued for it, and the answer is built from the codes and the overrides of the client. -/

namespace DeviceGrant

namespace DeviceResponse

/-- The answer for issued codes. -/
def build (userCode deviceCode : String) (client : Client) (context : RequestContext)
    (path : String) (defaultInterval expiresIn : Int) : Logged (Except Failure DeviceResponse) :=
  let uri := Override.verificationUri client context path
  match uri.value with
  | .error f => ⟨.error f, uri.events⟩
  | .ok verificationUri =>
    let interval := Override.interval client defaultInterval
    match interval.value with
    | .error f => ⟨.error f, uri.events ++ interval.events⟩
    | .ok n =>
      ⟨.ok ⟨deviceCode, userCode, verificationUri, n, expiresIn⟩, uri.events ++ interval.events⟩

/-- The answer of data that has not been checked: codes, default interval and lifetime may be of
any kind, and the answer is refused where they do not fit. -/
def assemble (userCode deviceCode : Value) (client : Client) (context : RequestContext)
    (path : String) (defaultInterval expiresIn : Value) :
    Logged (Except Failure DeviceResponse) :=
  let uri := Override.verificationUri client context path
  match uri.value with
  | .error f => ⟨.error f, uri.events⟩
  | .ok verificationUri =>
    let read (v : Value) : Except Failure (Option Value) :=
      (Override.positiveInt v).map fun n => n.map .int
    let interval :=
      Override.resolve read client.intervalOverride defaultInterval intervalKey
    match interval.value with
    | .error f => ⟨.error f, uri.events ++ interval.events⟩
    | .ok n =>
      let data : Value := .map [(.text "device_code", deviceCode), (.text "user_code", userCode),
        (.text "verification_uri", .text verificationUri), (.text "interval", n),
        (.text "expires_in", expiresIn)]
      ⟨((check data).refuseAs subject).mapError .invalid, uri.events ++ interval.events⟩

end DeviceResponse

/-- A service: its issuer with the sources of its codes, and what its answers say by default. -/
structure Service where
  issuer : Issuer
  codes : CodeSource
  defaultInterval : Int
  verificationPath : String

/-- What an authorization may change. -/
structure ServiceState where
  registry : Registry
  issuance : Issuance

namespace Service

/-- Handles an authorization request from end to end. -/
def authorize (v : Service) (now : Instant) (parameters : Table String)
    (principal : Option Principal) (context : RequestContext) (s : ServiceState) :
    Logged (Except Failure DeviceResponse) × ServiceState :=
  let (validated, registry) := s.registry.validate parameters principal
  match validated.value with
  | .error f => (⟨.error f, validated.events⟩, { s with registry })
  | .ok (request, client) =>
    let (issued, issuance) := v.issuer.issue v.codes now request s.issuance
    match issued.value with
    | .error f => (⟨.error f, validated.events ++ issued.events⟩, ⟨registry, issuance⟩)
    | .ok (userCode, deviceCode) =>
      let answer := DeviceResponse.build userCode deviceCode client context v.verificationPath
        v.defaultInterval v.issuer.expirySeconds
      (⟨answer.value, validated.events ++ issued.events ++ answer.events⟩, ⟨registry, issuance⟩)

end Service

end DeviceGrant
