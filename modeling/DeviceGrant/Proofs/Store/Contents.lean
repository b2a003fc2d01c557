import DeviceGrant.Proofs.Store.Encoding
import DeviceGrant.Store
set_option autoImplicit false

/-! # The records that a store holds

What a store of either kind holds: in memory the records of its table, in a shared store those
whose texts stand under the keys of device codes. An insert adds no record but its own, and nothing
else adds any; so a property of all records in a store is kept by every operation, provided that
the inserted records have it (`Within`), and what a look-up finds has it too. This does not depend
on the prefix of the keys, nor on how they belong together. -/

namespace DeviceGrant

/-! ## One operation -/

namespace MemoryStore

variable {s : MemoryStore} {now : Instant} {r q : DeviceRecord} {d : String}

/-- An insert adds no record but its own. -/
theorem get?_devices_insertIfAbsent (h : (s.insertIfAbsent now r).2.devices.get? d = some q) :
    q = r ∨ s.devices.get? d = some q := by
  cases hlive : s.holdsLive now r with
  | true =>
    rw [insertIfAbsent_of_holdsLive hlive] at h
    exact .inr h
  | false =>
    rw [insertIfAbsent_of_free hlive, get?_devices_reclaim_put] at h
    split at h
    · cases h
      exact .inl rfl
    · split at h
      · cases h
      · exact .inr h

end MemoryStore

namespace SharedStore

variable {s t : SharedStore} {now : Instant} {r : DeviceRecord} {code d text : String}

/-- An insert adds no text of a record but that of its own. -/
theorem get?_deviceKey_insertIfAbsent
    (h : (s.insertIfAbsent now r).2.service.get? ((s.insertIfAbsent now r).2.deviceKey d) =
      some text) :
    text = r.encode ∨ s.service.get? (s.deviceKey d) = some text := by
  rcases s.insertIfAbsent_cases now r with hsame | ⟨_, hwritten⟩
  · rw [hsame] at h
    exact .inr h
  · rw [deviceKey_congr hwritten.keyPrefix, hwritten.value,
      if_neg (deviceKey_ne_userKey _ _)] at h
    split at h
    · cases h
      exact .inl rfl
    · exact .inr h

/-- A removal adds no text. -/
theorem Shrunk.get?_deviceKey (hshrunk : s.Shrunk t)
    (h : t.service.get? (t.deviceKey d) = some text) :
    s.service.get? (s.deviceKey d) = some text := by
  rw [deviceKey_congr hshrunk.keyPrefix] at h
  exact ((hshrunk.change _).get?_eq_some h).1

/-- What is found under a device code was read from the text under its key. -/
theorem decode_of_getByDeviceCode (h : s.getByDeviceCode now d = .ok (some r)) :
    ∃ text, s.service.get? (s.deviceKey d) = some text ∧ DeviceRecord.decode text = .ok r := by
  unfold getByDeviceCode guarded at h
  split at h
  · cases h
  · unfold stored? value? at h
    split at h
    · cases h
    · next text htext =>
      split at h
      · next q hq =>
        obtain ⟨hvalue, _⟩ := Option.filter_eq_some_iff.1 htext
        obtain ⟨hfound, _⟩ := Option.filter_eq_some_iff.1 (Except.ok.inj h)
        cases hfound
        exact ⟨text, hvalue, hq⟩
      · cases h

/-- What is found under a user code is found under the device code that it leads to. -/
theorem getByDeviceCode_of_getByUserCode (h : s.getByUserCode now code = .ok (some r)) :
    ∃ d, s.getByDeviceCode now d = .ok (some r) := by
  unfold getByUserCode guarded at h
  split at h
  · cases h
  · split at h
    · cases h
    · next d _ =>
      cases hfound : s.getByDeviceCode now d with
      | error f =>
        rw [hfound] at h
        cases h
      | ok found =>
        rw [hfound] at h
        obtain ⟨hsame, _⟩ := Option.filter_eq_some_iff.1 (Except.ok.inj h)
        exact ⟨d, by rw [hfound, hsame]⟩

end SharedStore

/-! ## Properties of all records -/

namespace Store

variable {P : DeviceRecord → Prop} {s : Store} {now : Instant} {r : DeviceRecord} {code : String}

/-- A record is in a store. -/
def Holds : Store → DeviceRecord → Prop
  | memory s, r => ∃ d, s.devices.get? d = some r
  | shared s, r => ∃ d, s.service.get? (s.deviceKey d) = some r.encode

/-- All records of a store have a property. In a shared store nothing but the texts of such records
stands under the keys of device codes. -/
def Within (P : DeviceRecord → Prop) : Store → Prop
  | memory s => ∀ d r, s.devices.get? d = some r → P r
  | shared s => ∀ d text, s.service.get? (s.deviceKey d) = some text → ∃ r, P r ∧ r.encode = text

/-- A store without records. -/
def IsEmpty : Store → Prop
  | memory s => s = .empty
  | shared s => ∀ key, s.service.get? key = none

namespace Within

theorem of_isEmpty (h : s.IsEmpty) : s.Within P := by
  cases s with
  | memory s =>
    obtain rfl : s = .empty := h
    intro d r hr
    cases hr
  | shared s =>
    intro d text htext
    rw [h] at htext
    cases htext

theorem holds (h : s.Within P) (hr : s.Holds r) : P r := by
  cases s with
  | memory s =>
    obtain ⟨d, hd⟩ := hr
    exact h d r hd
  | shared s =>
    obtain ⟨d, hd⟩ := hr
    obtain ⟨q, hq, htext⟩ := h d _ hd
    exact DeviceRecord.encode_injective htext ▸ hq

theorem insertIfAbsent (h : s.Within P) (hr : P r) (now : Instant) :
    (s.insertIfAbsent now r).2.Within P := by
  cases s with
  | memory s =>
    intro d q hq
    rcases MemoryStore.get?_devices_insertIfAbsent hq with rfl | hq
    · exact hr
    · exact h d q hq
  | shared s =>
    intro d text htext
    rcases SharedStore.get?_deviceKey_insertIfAbsent htext with rfl | htext
    · exact ⟨r, hr, rfl⟩
    · exact h d text htext

theorem delete (h : s.Within P) (code : String) : (s.delete code).2.Within P := by
  cases s with
  | memory s =>
    intro d q hq
    have hq : (s.remove code).devices.get? d = some q := hq
    rw [MemoryStore.get?_devices_remove] at hq
    split at hq
    · cases hq
    · exact h d q hq
  | shared s =>
    intro d text htext
    exact h d text ((s.shrunk_delete code).get?_deviceKey htext)

theorem deleteExpired (h : s.Within P) (now : Instant) : (s.deleteExpired now).2.Within P := by
  cases s with
  | memory s =>
    intro d q hq
    have hq : (s.deleteExpired now).2.devices.get? d = some q := hq
    rw [MemoryStore.get?_devices_deleteExpired] at hq
    exact h d q (MemoryStore.getByDeviceCode_eq_some.1 hq).1
  | shared s =>
    intro d text htext
    exact h d text ((s.shrunk_deleteExpired now).get?_deviceKey htext)

theorem getByDeviceCode (h : s.Within P) (hr : s.getByDeviceCode now code = .ok (some r)) :
    P r := by
  cases s with
  | memory s => exact h code r (MemoryStore.getByDeviceCode_eq_some.1 (Except.ok.inj hr)).1
  | shared s =>
    obtain ⟨text, htext, hread⟩ := SharedStore.decode_of_getByDeviceCode hr
    obtain ⟨q, hq, rfl⟩ := h code text htext
    exact DeviceRecord.eq_of_decode_encode hread ▸ hq

theorem getByUserCode (h : s.Within P) (hr : s.getByUserCode now code = .ok (some r)) : P r := by
  cases s with
  | memory s =>
    obtain ⟨d, _, hd⟩ := MemoryStore.getByUserCode_eq_some.1 (Except.ok.inj hr)
    exact h d r (MemoryStore.getByDeviceCode_eq_some.1 hd).1
  | shared s =>
    obtain ⟨d, hd⟩ := SharedStore.getByDeviceCode_of_getByUserCode hr
    exact h.getByDeviceCode (s := shared s) hd

end Within

end Store

end DeviceGrant
