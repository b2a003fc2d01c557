import DeviceGrant.Store.Memory
import DeviceGrant.Store.Shared
set_option autoImplicit false

/-! # The store of device records

A deployment keeps its records either in memory or in a store shared between instances. The
operations are the same for both; in memory they never fail. -/

namespace DeviceGrant

/-- A store of either kind. -/
inductive Store
  | memory (s : MemoryStore)
  | shared (s : SharedStore)
deriving DecidableEq

namespace Store

/-- The live record of a device code. -/
def getByDeviceCode (now : Instant) (code : String) : Store → Except Failure (Option DeviceRecord)
  | memory s => .ok (s.getByDeviceCode now code)
  | shared s => s.getByDeviceCode now code

/-- The live record of a user code. -/
def getByUserCode (now : Instant) (code : String) : Store → Except Failure (Option DeviceRecord)
  | memory s => .ok (s.getByUserCode now code)
  | shared s => s.getByUserCode now code

/-- Stores a record unless one of its codes is taken, and says whether it was stored. -/
def insertIfAbsent (now : Instant) (r : DeviceRecord) : Store →
    Logged (Except Failure Bool) × Store
  | memory s =>
    let (stored, s) := s.insertIfAbsent now r
    (.silent (.ok stored), memory s)
  | shared s =>
    let (result, s) := s.insertIfAbsent now r
    (result, shared s)

/-- Removes the record of a device code, and says whether there was one. -/
def delete (code : String) : Store → Except Failure Bool × Store
  | memory s =>
    let (gone, s) := s.delete code
    (.ok gone, memory s)
  | shared s =>
    let (result, s) := s.delete code
    (result, shared s)

/-- Removes the expired records, and says how many there were. -/
def deleteExpired (now : Instant) : Store → Logged (Except Failure Nat) × Store
  | memory s =>
    let (n, s) := s.deleteExpired now
    (⟨.ok n, if n = 0 then [] else [.memoryCleaned n]⟩, memory s)
  | shared s =>
    let (result, s) := s.deleteExpired now
    (result, shared s)

end Store

end DeviceGrant
