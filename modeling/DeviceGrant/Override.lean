import DeviceGrant.Client
import DeviceGrant.Event
set_option autoImplicit false

/-! # Overrides of the answer

A client's registration may override the verification address and the polling interval. An
override that is absent or null is passed over silently, and one that its reader does not accept
is passed over with a warning; in both cases the default takes its place. The warning quotes the
override, and a whole number with more than 4300 digits cannot be quoted: this too is a failure.

`positiveInt` accepts a whole number above zero, or a text that is one in decimal digits.
`absoluteUrl` accepts a text that splits as a URL with the scheme `http` or `https` and an
authority. Both pass over blanks around a text. A numeral with more than 4300 digits, and a URL
whose authority is malformed, are failures and not merely unacceptable. -/

namespace DeviceGrant.Override

/-- A whole number above zero. -/
def positive? (n : Int) : Option Int := if 0 < n then some n else none

/-- Reads a polling interval. -/
def positiveInt : Value → Except Failure (Option Int)
  | .int n => .ok (positive? n)
  | .text s =>
    let ds := Text.trimChars s.toList
    if !ds.isEmpty && ds.all Char.isDigit then
      if maxDigits < ds.length then .error (.numeralTooLong ds.length)
      else .ok (positive? (Text.digitsValue ds))
    else .ok none
  | _ => .ok none

/-- Whether a scheme is one that a browser opens. -/
def isWebScheme (scheme : List Char) : Bool :=
  scheme = ['h', 't', 't', 'p'] || scheme = ['h', 't', 't', 'p', 's']

/-- Reads a verification address. -/
def absoluteUrl : Value → Except Failure (Option String)
  | .text s =>
    let candidate := Text.trimChars s.toList
    if candidate.isEmpty then .ok none
    else match Url.split candidate with
      | .error f => .error (.url f)
      | .ok url =>
        if isWebScheme url.scheme && !url.authority.isEmpty then
          .ok (some (String.ofList candidate))
        else .ok none
  | _ => .ok none

/-- The value of an override, or the default where it is absent or not accepted. -/
def resolve {α : Type} (read : Value → Except Failure (Option α)) (raw : Value) (default : α)
    (name : String) : Logged (Except Failure α) :=
  match raw with
  | .null => .silent (.ok default)
  | raw =>
    match read raw with
    | .error f => .silent (.error f)
    | .ok (some a) => .silent (.ok a)
    | .ok none =>
      if raw.isPrintable then ⟨.ok default, [.overrideIgnored name raw]⟩
      else .silent (.error .numberTooLong)

/-- The verification path when none is configured. -/
def defaultVerificationPath : String := "user_verify"

/-- The polling interval when none is configured. -/
def defaultInterval : Int := 2

/-- The address that is derived from the address of the request: its last segment is replaced by
the verification path. -/
def derivedUri (baseUrl path : String) : String :=
  let before := match Text.cutLast? '/' baseUrl.toList with
    | some (before, _) => before
    | none => []
  String.ofList before ++ "/" ++ path

/-- The verification address for a client. -/
def verificationUri (client : Client) (context : RequestContext) (path : String) :
    Logged (Except Failure String) :=
  resolve absoluteUrl client.verificationUriOverride (derivedUri context.baseUrl path)
    verificationUriKey

/-- The polling interval for a client. -/
def interval (client : Client) (default : Int) : Logged (Except Failure Int) :=
  resolve positiveInt client.intervalOverride default intervalKey

end DeviceGrant.Override
