import DeviceGrant.Validation
set_option autoImplicit false

/-! # Answers

The answer to a successful request has five fields. An error body has a code and, unless it would
be empty, a description. The context of a request is the address it was sent to. -/

namespace DeviceGrant

/-- The answer that carries the two codes. -/
structure DeviceResponse where
  deviceCode : String
  userCode : String
  verificationUri : String
  interval : Int
  expiresIn : Int
deriving DecidableEq, Repr

namespace DeviceResponse

/-- The name of the structure in reports. -/
def subject : String := "DeviceCodeResponse"

/-- Checks an answer and all of its parts. -/
def check (v : Value) : Checked DeviceResponse := do
  let es ← Check.fields v
  let codes := Checked.combine (·, ·)
    (Check.required "device_code" Check.text es) (Check.required "user_code" Check.text es)
  let uri := Check.required "verification_uri" Check.text es
  let times := Checked.combine (·, ·)
    (Check.required "interval" Check.int es) (Check.required "expires_in" Check.int es)
  .combine (fun ((d, u), v) (i, e) => ⟨d, u, v, i, e⟩) (.combine (·, ·) codes uri) times

/-- The answer as JSON. -/
def toJson (r : DeviceResponse) : Json :=
  .object [("device_code", .text r.deviceCode), ("user_code", .text r.userCode),
    ("verification_uri", .text r.verificationUri), ("interval", .int r.interval),
    ("expires_in", .int r.expiresIn)]

end DeviceResponse

/-- A body that reports an error. -/
structure ErrorBody where
  error : String
  description : Option String
deriving DecidableEq, Repr

namespace ErrorBody

/-- The name of the structure in reports. -/
def subject : String := "OAuthErrorResponse"

/-- Checks an error body and all of its parts. -/
def check (v : Value) : Checked ErrorBody := do
  let es ← Check.fields v
  .combine ErrorBody.mk (Check.required "error" Check.text es)
    (Check.optional "error_description" none Check.optionalText es)

/-- The body for a code; an empty message is left out. -/
def ofMessage (error : String) (message : Option String) : ErrorBody :=
  ⟨error, message.filter (!·.isEmpty)⟩

/-- The body for a code and a message of any kind; a message that counts as empty is left out. -/
def ofData (error message : Json) : Json :=
  .object (("error", error) ::
    if (Value.ofJson message).isTruthy then [("error_description", message)] else [])

/-- The body as JSON; an absent description is left out. -/
def toJson (b : ErrorBody) : Json :=
  .object (("error", .text b.error) ::
    (match b.description with
    | some d => [("error_description", .text d)]
    | none => []))

end ErrorBody

/-- What of an inbound request the answer depends on: the address without query. -/
structure RequestContext where
  baseUrl : String
deriving DecidableEq, Repr

namespace RequestContext

/-- The name of the structure in reports. -/
def subject : String := "RequestContext"

/-- Checks a context. -/
def check (v : Value) : Checked RequestContext := do
  let es ← Check.fields v
  (Check.required "base_url" Check.text es).map RequestContext.mk

end RequestContext

end DeviceGrant
