import DeviceGrant.Instant
import DeviceGrant.Request
set_option autoImplicit false

/-! # Device records

A device record ties a device code and a user code to the request they were issued for, with the
seconds of issue and of expiry and the state of approval. It is live up to and including its
second of expiry.

A shared store holds records as JSON; `encode` is that form and `decode` reads it back. -/

namespace DeviceGrant

/-- The state of approval of a device code. -/
inductive ApprovalStatus
  | pending
  | approved
  | denied
deriving DecidableEq, Repr

namespace ApprovalStatus

/-- The word for a state in records. -/
def word : ApprovalStatus → String
  | pending => "pending"
  | approved => "approved"
  | denied => "denied"

/-- The state of a word. -/
def ofWord? (s : String) : Option ApprovalStatus :=
  if s = "pending" then some pending
  else if s = "approved" then some approved
  else if s = "denied" then some denied
  else none

@[simp] theorem ofWord?_word (s : ApprovalStatus) : ofWord? s.word = some s := by
  cases s <;> rfl

/-- Checks a state of approval. -/
def check : Value → Checked ApprovalStatus
  | .text s => match ofWord? s with
    | some status => .ok status
    | none => .issue .choiceExpected
  | _ => .issue .choiceExpected

end ApprovalStatus

/-- An issued pair of codes and the request they belong to. -/
structure DeviceRecord where
  deviceCode : String
  userCode : String
  request : AuthorizationRequest
  issuedAt : Int
  expiresAt : Int
  status : ApprovalStatus
deriving DecidableEq

namespace DeviceRecord

/-- Whether a record has expired at a reading of the clock. -/
def isExpired (r : DeviceRecord) (now : Instant) : Bool := now.isAfter r.expiresAt

/-- Whether a record is live at a reading of the clock. -/
def isLive (r : DeviceRecord) (now : Instant) : Bool := !r.isExpired now

/-- The name of the structure in reports. -/
def subject : String := "DeviceCodeRecord"

/-- Checks a record and all of its parts. -/
def check (v : Value) : Checked DeviceRecord := do
  let es ← Check.fields v
  let codes := Checked.combine (·, ·)
    (Check.required "device_code" Check.text es) (Check.required "user_code" Check.text es)
  let request := Check.required "request" AuthorizationRequest.check es
  let times := Checked.combine (·, ·)
    (Check.required "issued_at" Check.int es) (Check.required "expires_at" Check.int es)
  let status := Check.optional "status" .pending ApprovalStatus.check es
  .combine (fun ((d, u), q) ((i, e), s) => ⟨d, u, q, i, e, s⟩)
    (.combine (·, ·) codes request) (.combine (·, ·) times status)

/-- The record as JSON. -/
def toJson (r : DeviceRecord) : Json :=
  .object [("device_code", .text r.deviceCode), ("user_code", .text r.userCode),
    ("request", r.request.toJson), ("issued_at", .int r.issuedAt),
    ("expires_at", .int r.expiresAt), ("status", .text r.status.word)]

/-- The text that a shared store holds for a record. -/
def encode (r : DeviceRecord) : String := r.toJson.toText

/-- The record of a text from a shared store. -/
def decode (s : String) : Except Rejection DeviceRecord :=
  (Check.json check s).refuseAs subject

end DeviceRecord

end DeviceGrant
