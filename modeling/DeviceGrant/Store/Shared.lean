import DeviceGrant.Event
import DeviceGrant.Record
import DeviceGrant.Store.KeyValue
set_option autoImplicit false

/-! # The store shared between instances

Records of several processes, held by a key-value service. A record stands as JSON under the key
of its device code, and its device code under the key of its user code; both keys are set in one
step, which also settles whether the codes are free. The keys get the seconds that are left of the
record to live, at least one.

Lookups check the expiry of the record they find, since a key may outlive it. A key that is there
blocks an insert even when its record has expired. -/

namespace DeviceGrant

/-- A key-value service, and the prefix of all keys of this store. -/
structure SharedStore where
  service : KeyValueService
  keyPrefix : String
deriving DecidableEq

namespace SharedStore

/-- What the keys of device codes start with. -/
def deviceKeyPrefix (s : SharedStore) : String := s.keyPrefix ++ ":device_code:"

/-- What the keys of user codes start with. -/
def userKeyPrefix (s : SharedStore) : String := s.keyPrefix ++ ":user_code:"

/-- The key of a device code. -/
def deviceKey (s : SharedStore) (code : String) : String := s.deviceKeyPrefix ++ code

/-- The key of a user code. -/
def userKey (s : SharedStore) (code : String) : String := s.userKeyPrefix ++ code

/-- The result of a command, or the failure that lasts. -/
def guarded {α : Type} (s : SharedStore) (command : Except Failure α) : Except Failure α :=
  match s.service.failure with
  | some m => .error (.storeUnreachable m)
  | none => command

/-- The value of a key; an empty one counts as missing. -/
def value? (s : SharedStore) (key : String) : Option String :=
  (s.service.get? key).filter (!·.isEmpty)

/-- The record under the key of a device code, live or expired. -/
def stored? (s : SharedStore) (code : String) : Except Failure (Option DeviceRecord) :=
  match s.value? (s.deviceKey code) with
  | none => .ok none
  | some text =>
    match DeviceRecord.decode text with
    | .ok r => .ok (some r)
    | .error e => .error (.invalid e)

/-- The live record of a device code. -/
def getByDeviceCode (s : SharedStore) (now : Instant) (code : String) :
    Except Failure (Option DeviceRecord) :=
  s.guarded ((s.stored? code).map fun r => r.filter (·.isLive now))

/-- The live record of a user code; the record that is found must have that user code. -/
def getByUserCode (s : SharedStore) (now : Instant) (code : String) :
    Except Failure (Option DeviceRecord) :=
  s.guarded <| match s.value? (s.userKey code) with
    | none => .ok none
    | some device => (s.getByDeviceCode now device).map fun r => r.filter (·.userCode = code)

/-- The seconds that the keys of a record get to live. -/
def secondsToLive (now : Instant) (r : DeviceRecord) : Except Failure Int :=
  (now.secondsUntil r.expiresAt).map fun n => max n 1

/-- The two keys of a record with their values. -/
def keysOf (s : SharedStore) (r : DeviceRecord) : List (String × String) :=
  [(s.deviceKey r.deviceCode, r.encode), (s.userKey r.userCode, r.deviceCode)]

/-- Stores a record unless one of its keys is there, and says whether it was stored. -/
def insertIfAbsent (s : SharedStore) (now : Instant) (r : DeviceRecord) :
    Logged (Except Failure Bool) × SharedStore :=
  match s.service.failure with
  | some m => (.silent (.error (.storeUnreachable m)), s)
  | none =>
    match s.service.setAllIfAbsent (s.keysOf r) with
    | (false, _) => (⟨.ok false, [.sharedCollision r.deviceCode r.userCode]⟩, s)
    | (true, service) =>
      match secondsToLive now r with
      | .error f => (.silent (.error f), { s with service })
      | .ok ttl =>
        let service := (service.expire (s.deviceKey r.deviceCode) ttl).expire
          (s.userKey r.userCode) ttl
        (.silent (.ok true), { s with service })

/-- Removes the record of a device code with both of its keys, and says whether a key was
removed. -/
def delete (s : SharedStore) (code : String) : Except Failure Bool × SharedStore :=
  match s.guarded (s.stored? code) with
  | .error f => (.error f, s)
  | .ok none => (.ok false, s)
  | .ok (some r) =>
    let (n, service) := s.service.delete [s.deviceKey code, s.userKey r.userCode]
    (.ok (0 < n), { s with service })

/-- Removes the record under one key if it has expired, and says whether the key was removed. The
key of its user code goes with it if it belongs to this record. -/
def sweepKey (s : SharedStore) (now : Instant) (key : String) : Except Failure Bool × SharedStore :=
  match s.value? key with
  | none => (.ok false, s)
  | some text =>
    match DeviceRecord.decode text with
    | .error e => (.error (.invalid e), s)
    | .ok r =>
      if r.isExpired now then
        let userKey := s.userKey r.userCode
        let service := if s.service.get? userKey = some r.deviceCode then s.service.erase userKey
          else s.service
        let (n, service) := service.delete [key]
        (.ok (0 < n), { s with service })
      else (.ok false, s)

/-- Removes the expired records under the given keys, and says how many were removed. A record
that cannot be read ends the sweep; what was removed before it stays removed. -/
def sweepKeys (s : SharedStore) (now : Instant) : List String → Nat → Except Failure Nat × SharedStore
  | [], removed => (.ok removed, s)
  | key :: keys, removed =>
    match s.sweepKey now key with
    | (.error f, s) => (.error f, s)
    | (.ok gone, s) => sweepKeys s now keys (removed + if gone then 1 else 0)

/-- Removes the expired records, and says how many there were. -/
def deleteExpired (s : SharedStore) (now : Instant) : Logged (Except Failure Nat) × SharedStore :=
  match s.service.failure with
  | some m => (.silent (.error (.storeUnreachable m)), s)
  | none =>
    match s.sweepKeys now (s.service.scan (s.deviceKeyPrefix ++ "*")) 0 with
    | (.ok n, s) => (⟨.ok n, if n = 0 then [] else [.sharedCleaned n]⟩, s)
    | (.error f, s) => (.silent (.error f), s)

end SharedStore

end DeviceGrant
