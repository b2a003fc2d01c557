import DeviceGrant.Code
import DeviceGrant.Store
set_option autoImplicit false

/-! # Issuing codes

The issuer draws pairs of codes until one of them can be stored, and gives up after a number of
attempts. Each attempt takes the next device code and the next user code of its sources, whether
the pair is stored or not. -/

namespace DeviceGrant

/-- Where the codes of an issuer come from: those of the attempt with each number. -/
structure CodeSource where
  device : Nat → String
  user : Nat → String

/-- A store, and how many pairs of codes have been drawn for it. -/
structure Issuance where
  store : Store
  drawn : Nat

/-- The lifetime of records in seconds, and how many attempts are made. -/
structure Issuer where
  expirySeconds : Int
  maxAttempts : Int
deriving DecidableEq, Repr

namespace Issuer

/-- The record that an attempt tries to store. -/
def newRecord (i : Issuer) (codes : CodeSource) (now : Instant) (request : AuthorizationRequest)
    (draw : Nat) : Except Failure DeviceRecord :=
  now.truncate.map fun second =>
    ⟨codes.device draw, codes.user draw, request, second, second + i.expirySeconds, .pending⟩

/-- At most `left` further attempts. The pair that was stored comes as user code and device code.
No pair is drawn at a reading without a whole second. -/
def attempt (i : Issuer) (codes : CodeSource) (now : Instant) (request : AuthorizationRequest) :
    Nat → Issuance → Logged (Except Failure (String × String)) × Issuance
  | 0, s =>
    (⟨.error (.refused (.exhausted i.maxAttempts)),
      [.codesExhausted i.maxAttempts request.clientId]⟩, s)
  | left + 1, s =>
    match i.newRecord codes now request s.drawn with
    | .error f => (.silent (.error f), s)
    | .ok r =>
      let (inserted, store) := s.store.insertIfAbsent now r
      let s : Issuance := ⟨store, s.drawn + 1⟩
      match inserted.value with
      | .error f => (⟨.error f, inserted.events⟩, s)
      | .ok true =>
        (⟨.ok (r.userCode, r.deviceCode),
          inserted.events ++ [.codesGenerated request.clientId r.userCode r.deviceCode]⟩, s)
      | .ok false =>
        let (next, s) := attempt i codes now request left s
        (⟨next.value,
          inserted.events ++ .codeCollision (i.maxAttempts - left) i.maxAttempts :: next.events⟩, s)

/-- Issues a pair of codes for a request. -/
def issue (i : Issuer) (codes : CodeSource) (now : Instant) (request : AuthorizationRequest)
    (s : Issuance) : Logged (Except Failure (String × String)) × Issuance :=
  i.attempt codes now request i.maxAttempts.toNat s

end Issuer

end DeviceGrant
