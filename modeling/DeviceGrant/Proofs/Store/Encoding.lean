import DeviceGrant.Proofs.Record
import DeviceGrant.Proofs.Store.Commands
import DeviceGrant.Proofs.Store.Pairing
set_option autoImplicit false

/-! # The tables of a shared store

The keys of a shared store hold the two tables that a store in memory has: `Encodes` says that the
key of a device code holds the text of its record, that the key of a user code holds its device
code, and that there are no other keys. A shared store under a plain prefix whose keys encode
inverse tables keeps doing so: an insert puts a record whose two codes are free, a removal removes
a record with both of its codes, and a sweep removes one record after the other. So everything
that is known about inverse tables holds of the keys. -/

namespace DeviceGrant

namespace SharedStore

open KeyValueService (KeyChange)

variable {s t : SharedStore} {m : MemoryStore} {now : Instant} {r : DeviceRecord}
  {code d u : String}

/-- The keys of a shared store are those of two tables. -/
structure Encodes (s : SharedStore) (m : MemoryStore) : Prop where
  device : ∀ d, s.service.get? (s.deviceKey d) = (m.devices.get? d).map DeviceRecord.encode
  user : ∀ u, s.service.get? (s.userKey u) = m.users.get? u
  only : ∀ key, s.service.get? key ≠ none →
    (∃ d, key = s.deviceKey d) ∨ ∃ u, key = s.userKey u

/-- A store without keys. -/
def empty (keyPrefix : String) : SharedStore := ⟨.empty, keyPrefix⟩

theorem encodes_empty (keyPrefix : String) : (empty keyPrefix).Encodes .empty where
  device _ := rfl
  user _ := rfl
  only _ h := absurd rfl h

theorem deviceKey_congr (h : t.keyPrefix = s.keyPrefix) (d : String) :
    t.deviceKey d = s.deviceKey d := by
  rw [deviceKey, deviceKey, deviceKeyPrefix, deviceKeyPrefix, h]

theorem userKey_congr (h : t.keyPrefix = s.keyPrefix) (u : String) :
    t.userKey u = s.userKey u := by
  rw [userKey, userKey, userKeyPrefix, userKeyPrefix, h]

/-- A sweep goes on with the same keys. -/
theorem deviceKey_sweepKey (s : SharedStore) (now : Instant) (key : String) :
    (s.sweepKey now key).2.deviceKey = s.deviceKey :=
  funext (deviceKey_congr (s.shrunk_sweepKey now key).keyPrefix)

namespace Encodes

/-! ## What the keys hold -/

theorem device_eq_some (h : s.Encodes m) {text : String} :
    s.service.get? (s.deviceKey d) = some text ↔
      ∃ r, m.devices.get? d = some r ∧ r.encode = text := by
  rw [h.device, Option.map_eq_some_iff]

theorem device_eq_none (h : s.Encodes m) :
    s.service.get? (s.deviceKey d) = none ↔ m.devices.get? d = none := by
  rw [h.device, Option.map_eq_none_iff]

/-- Only tables with the same entries are encoded by the same keys. -/
theorem congr {m' : MemoryStore} (h : s.Encodes m)
    (hdevices : ∀ d, m'.devices.get? d = m.devices.get? d)
    (husers : ∀ u, m'.users.get? u = m.users.get? u) : s.Encodes m' where
  device d := by rw [h.device, hdevices]
  user u := by rw [h.user, husers]
  only := h.only

theorem free_iff (h : s.Encodes m) :
    s.Free r ↔ m.devices.get? r.deviceCode = none ∧ m.users.get? r.userCode = none := by
  rw [Free, h.device_eq_none, h.user]

theorem value?_deviceKey (h : s.Encodes m) (d : String) :
    s.value? (s.deviceKey d) = (m.devices.get? d).map DeviceRecord.encode := by
  rw [value?, h.device]
  cases m.devices.get? d with
  | none => rfl
  | some r => simp [r.encode_ne_empty]

theorem stored?_of_none (h : s.Encodes m) (hd : m.devices.get? d = none) :
    s.stored? d = .ok none := by
  rw [stored?, h.value?_deviceKey, hd]
  rfl

theorem stored?_of_readable (h : s.Encodes m) (hd : m.devices.get? d = some r)
    (hread : DeviceRecord.decode r.encode = .ok r) : s.stored? d = .ok (some r) := by
  rw [stored?, h.value?_deviceKey, hd]
  simp only [Option.map_some, hread]

theorem stored?_of_unreadable (h : s.Encodes m) (hd : m.devices.get? d = some r) {e : Rejection}
    (hread : DeviceRecord.decode r.encode = .error e) : s.stored? d = .error (.invalid e) := by
  rw [stored?, h.value?_deviceKey, hd]
  simp only [Option.map_some, hread]

/-! ## Inserts -/

theorem written (h : s.Encodes m) (hwritten : s.Written t now r) : t.Encodes (m.put r) where
  device d := by
    rw [deviceKey_congr hwritten.keyPrefix, hwritten.value, if_neg (deviceKey_ne_userKey d _),
      MemoryStore.put, Table.get?_put]
    by_cases hd : d = r.deviceCode
    · rw [if_pos (congrArg _ hd), if_pos hd]
      rfl
    · rw [if_neg (mt deviceKey_injective hd), if_neg hd, h.device]
  user u := by
    rw [userKey_congr hwritten.keyPrefix, hwritten.value, MemoryStore.put, Table.get?_put]
    by_cases hu : u = r.userCode
    · rw [if_pos (congrArg _ hu), if_pos hu]
    · rw [if_neg (mt userKey_injective hu), if_neg (Ne.symm (deviceKey_ne_userKey _ u)),
        if_neg hu, h.user]
  only key hkey := by
    simp only [deviceKey_congr hwritten.keyPrefix, userKey_congr hwritten.keyPrefix]
    rw [hwritten.value] at hkey
    split at hkey
    · next heq => exact .inr ⟨_, heq⟩
    · split at hkey
      · next heq => exact .inl ⟨_, heq⟩
      · exact h.only key hkey

/-! ## Removals -/

/-- A store without the two keys of a record is the encoding of the tables without it. -/
theorem removed (h : s.Encodes m) (hm : m.Paired) (hd : m.devices.get? d = some r)
    (hsame : t.keyPrefix = s.keyPrefix)
    (hvalue : ∀ key, t.service.get? key =
      if key = s.deviceKey d ∨ key = s.userKey r.userCode then none else s.service.get? key) :
    t.Encodes (m.remove d) where
  device d' := by
    rw [deviceKey_congr hsame, hvalue, MemoryStore.get?_devices_remove]
    by_cases hd' : d' = d
    · rw [if_pos (.inl (congrArg _ hd')), if_pos hd']
      rfl
    · rw [if_neg, if_neg hd', h.device]
      rintro (heq | heq)
      · exact hd' (deviceKey_injective heq)
      · exact deviceKey_ne_userKey _ _ heq
  user u := by
    -- The user code of the removed record is the one that leads to its device code.
    have hback : u = r.userCode ↔ m.users.get? u = some d := by
      constructor
      · rintro rfl
        exact (hm.device d r hd).2
      · intro hu
        obtain ⟨r', hr', huser⟩ := hm.user u d hu
        rw [hd] at hr'
        cases hr'
        exact huser.symm
    rw [userKey_congr hsame, hvalue, hm.get?_users_remove]
    by_cases hu : u = r.userCode
    · rw [if_pos (.inr (congrArg _ hu)), if_pos (hback.1 hu)]
    · rw [if_neg, if_neg (mt hback.2 hu), h.user]
      rintro (heq | heq)
      · exact deviceKey_ne_userKey _ _ heq.symm
      · exact hu (userKey_injective heq)
  only key hkey := by
    simp only [deviceKey_congr hsame, userKey_congr hsame]
    rw [hvalue] at hkey
    split at hkey
    · exact absurd rfl hkey
    · exact h.only key hkey

theorem delete_of_none (h : s.Encodes m) (hup : s.service.failure = none)
    (hd : m.devices.get? d = none) : s.delete d = (.ok false, s) := by
  rw [delete, guarded_of_none hup, h.stored?_of_none hd]

/-- A record that can be read is removed with both of its keys. -/
theorem delete_of_some (h : s.Encodes m) (hm : m.Paired) (hup : s.service.failure = none)
    (hd : m.devices.get? d = some r) (hread : DeviceRecord.decode r.encode = .ok r) :
    (s.delete d).1 = .ok true ∧ (s.delete d).2.Encodes (m.remove d) := by
  have hkey : s.service.get? (s.deviceKey d) ≠ none := by
    rw [h.device, hd]
    simp
  have hpos := KeyValueService.delete_fst_pos [s.userKey r.userCode] hkey
  rw [delete, guarded_of_none hup, h.stored?_of_readable hd hread]
  dsimp only
  refine ⟨by rw [decide_eq_true hpos], h.removed hm hd rfl fun key => ?_⟩
  rw [KeyValueService.delete_snd]
  simp only [List.foldl_cons, List.foldl_nil, KeyValueService.get?_erase]
  by_cases hdevice : key = s.deviceKey d <;> by_cases huser : key = s.userKey r.userCode <;>
    simp [hdevice, huser]

/-- A record that cannot be read is not removed. -/
theorem delete_of_unreadable (h : s.Encodes m) (hup : s.service.failure = none)
    (hd : m.devices.get? d = some r) {e : Rejection} (hread : DeviceRecord.decode r.encode = .error e) :
    s.delete d = (.error (.invalid e), s) := by
  rw [delete, guarded_of_none hup, h.stored?_of_unreadable hd hread]

/-! ## Sweeps -/

theorem sweepKey_of_none (h : s.Encodes m) (hd : m.devices.get? d = none) :
    s.sweepKey now (s.deviceKey d) = (.ok false, s) := by
  rw [sweepKey, h.value?_deviceKey, hd]
  rfl

theorem sweepKey_of_unreadable (h : s.Encodes m) (hd : m.devices.get? d = some r) {e : Rejection}
    (hread : DeviceRecord.decode r.encode = .error e) :
    s.sweepKey now (s.deviceKey d) = (.error (.invalid e), s) := by
  rw [sweepKey, h.value?_deviceKey, hd, Option.map_some]
  simp only [hread]

theorem sweepKey_of_live (h : s.Encodes m) (hd : m.devices.get? d = some r)
    (hread : DeviceRecord.decode r.encode = .ok r) (hlive : r.isExpired now = false) :
    s.sweepKey now (s.deviceKey d) = (.ok false, s) := by
  rw [sweepKey, h.value?_deviceKey, hd, Option.map_some]
  simp only [hread, hlive]
  rfl

theorem sweepKey_of_expired (h : s.Encodes m) (hm : m.Paired) (hd : m.devices.get? d = some r)
    (hread : DeviceRecord.decode r.encode = .ok r) (hexpired : r.isExpired now = true) :
    (s.sweepKey now (s.deviceKey d)).1 = .ok true ∧
      (s.sweepKey now (s.deviceKey d)).2.Encodes (m.remove d) := by
  obtain ⟨hcode, hback⟩ := hm.device d r hd
  have huser : s.service.get? (s.userKey r.userCode) = some r.deviceCode := by
    rw [h.user, hback, hcode]
  have hkey : (s.service.erase (s.userKey r.userCode)).get? (s.deviceKey d) ≠ none := by
    rw [KeyValueService.get?_erase, if_neg (deviceKey_ne_userKey d _), h.device, hd]
    simp
  have hpos := KeyValueService.delete_fst_pos [] hkey
  rw [sweepKey, h.value?_deviceKey, hd, Option.map_some]
  simp only [hread, hexpired, huser, if_true]
  refine ⟨by rw [decide_eq_true hpos], h.removed hm hd rfl fun key => ?_⟩
  rw [KeyValueService.delete_snd]
  simp only [List.foldl_cons, List.foldl_nil, KeyValueService.get?_erase]
  by_cases hdevice : key = s.deviceKey d <;> by_cases huser : key = s.userKey r.userCode <;>
    simp [hdevice, huser]

end Encodes

end SharedStore

end DeviceGrant
