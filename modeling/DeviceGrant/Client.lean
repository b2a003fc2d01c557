import DeviceGrant.Validation
set_option autoImplicit false

/-! # Registered clients

A registered client has an id, the scope it may ask for, and further information whose values are
of any kind. Two entries of that information override parts of the answer: the address where the
user enters the code, and the interval at which the device polls. -/

namespace DeviceGrant

/-- The name of the entry that overrides the verification address. -/
def verificationUriKey : String := "device_verification_uri"

/-- The name of the entry that overrides the polling interval. -/
def intervalKey : String := "device_interval"

/-- A registered client. -/
structure Client where
  clientId : String
  scope : Scope
  information : Table Value

namespace Client

/-- The override of the verification address; null counts as absent. -/
def verificationUriOverride (c : Client) : Value := (c.information.get? verificationUriKey).getD .null

/-- The override of the polling interval; null counts as absent. -/
def intervalOverride (c : Client) : Value := (c.information.get? intervalKey).getD .null

/-- The name of the structure in reports. -/
def subject : String := "ClientMetadata"

/-- Checks a client and all of its parts. -/
def check (v : Value) : Checked Client := do
  let es ← Check.fields v
  .combine (fun f i => f i)
    (.combine (fun clientId scope => Client.mk clientId scope)
      (Check.required "client_id" Check.text es)
      (Check.optional "scope" Scope.empty Check.scope es))
    (Check.optional "additional_information" Table.empty (Check.table .ok) es)

/-- The client of a piece of data. -/
def ofValue (v : Value) : Except Rejection Client := (check v).refuseAs subject

end Client

end DeviceGrant
