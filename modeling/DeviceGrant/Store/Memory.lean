import DeviceGrant.Record
set_option autoImplicit false

/-! # The store in memory

Records of one process. A record is found by its device code, and through it by its user code. An
expired record is not found any more, and its codes are free: a later insert reclaims them, and a
sweep removes every expired record at once. -/

namespace DeviceGrant

/-- Records by device code, and device codes by user code. -/
structure MemoryStore where
  devices : Table DeviceRecord
  users : Table String
deriving DecidableEq

namespace MemoryStore

/-- The store without records. -/
def empty : MemoryStore := ⟨.empty, .empty⟩

/-- The number of records held, live or expired. -/
def size (s : MemoryStore) : Nat := s.devices.size

/-- A record that is live at a reading of the clock. -/
def live? (now : Instant) (r : Option DeviceRecord) : Option DeviceRecord :=
  r.filter (·.isLive now)

/-- The live record of a device code. -/
def getByDeviceCode (s : MemoryStore) (now : Instant) (code : String) : Option DeviceRecord :=
  live? now (s.devices.get? code)

/-- The live record of a user code. -/
def getByUserCode (s : MemoryStore) (now : Instant) (code : String) : Option DeviceRecord :=
  match s.users.get? code with
  | none => none
  | some device => s.getByDeviceCode now device

/-- The store without the record of a device code. Its user code is freed unless another record
has taken it over. -/
def remove (s : MemoryStore) (code : String) : MemoryStore :=
  match s.devices.get? code with
  | none => s
  | some r =>
    ⟨s.devices.erase code,
      if s.users.get? r.userCode = some code then s.users.erase r.userCode else s.users⟩

/-- Removes the record of a device code, and says whether there was one. -/
def delete (s : MemoryStore) (code : String) : Bool × MemoryStore :=
  (s.devices.contains code, s.remove code)

/-- Whether a live record has either code of a record. -/
def holdsLive (s : MemoryStore) (now : Instant) (r : DeviceRecord) : Bool :=
  (s.getByDeviceCode now r.deviceCode).isSome || (s.getByUserCode now r.userCode).isSome

/-- The store without the holders of the two codes of a record. -/
def reclaim (s : MemoryStore) (r : DeviceRecord) : MemoryStore :=
  let owner := s.users.get? r.userCode
  let s := s.remove r.deviceCode
  match owner with
  | none => s
  | some code => s.remove code

/-- The store with a record put under its two codes. -/
def put (s : MemoryStore) (r : DeviceRecord) : MemoryStore :=
  ⟨s.devices.put r.deviceCode r, s.users.put r.userCode r.deviceCode⟩

/-- Stores a record unless a live record has one of its codes, and says whether it was stored. -/
def insertIfAbsent (s : MemoryStore) (now : Instant) (r : DeviceRecord) : Bool × MemoryStore :=
  if s.holdsLive now r then (false, s) else (true, (s.reclaim r).put r)

/-- The device codes of the records that have expired, in the order of the store. -/
def expiredCodes (s : MemoryStore) (now : Instant) : List String :=
  (s.devices.entries.filter fun e => e.2.isExpired now).map (·.1)

/-- Removes the expired records, and says how many there were. -/
def deleteExpired (s : MemoryStore) (now : Instant) : Nat × MemoryStore :=
  ((s.expiredCodes now).length, (s.expiredCodes now).foldl remove s)

end MemoryStore

end DeviceGrant
