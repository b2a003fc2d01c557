import DeviceGrant.Store.Memory
import Mathlib.Data.List.Nodup
import Mathlib.Data.List.Perm.Basic
set_option autoImplicit false

/-! # The two tables of the store in memory are inverse

A record is held under its device code, and its device code under its user code. `Paired` says
that this is all the two tables hold: they are inverse to each other. Each operation changes both
tables, and a removal frees the user code only on the condition that it still leads to the record
removed; under `Paired` that condition always holds, so `get?_devices_remove` and
`get?_users_remove` describe a removal without it. Everything later is proved from these two and
from the corresponding lemmas about `reclaim` and `put`. -/

namespace DeviceGrant

namespace MemoryStore

variable {s : MemoryStore} {now : Instant} {r : DeviceRecord} {code u : String}

/-- The table of user codes is the inverse of the table of records. -/
structure Paired (s : MemoryStore) : Prop where
  /-- A record stands under its own device code, and its user code leads to it. -/
  device : ∀ code r, s.devices.get? code = some r →
    r.deviceCode = code ∧ s.users.get? r.userCode = some code
  /-- A user code leads to a record that has it. -/
  user : ∀ u code, s.users.get? u = some code →
    ∃ r, s.devices.get? code = some r ∧ r.userCode = u

theorem paired_empty : empty.Paired where
  device := by
    intro code r h
    simp [empty] at h
  user := by
    intro u code h
    simp [empty] at h

/-- The user code of a record, and no other, leads to its device code. -/
theorem Paired.leads_iff (h : s.Paired) (hr : s.devices.get? code = some r) :
    s.users.get? u = some code ↔ r.userCode = u := by
  constructor
  · intro hu
    obtain ⟨r', hr', huser⟩ := h.user u code hu
    rw [hr] at hr'
    cases hr'
    exact huser
  · rintro rfl
    exact (h.device code r hr).2

/-! ## Look-ups -/

theorem getByDeviceCode_eq_some :
    s.getByDeviceCode now code = some r ↔ s.devices.get? code = some r ∧ r.isLive now = true := by
  simp [getByDeviceCode, live?, Option.filter_eq_some_iff]

theorem getByUserCode_eq_some :
    s.getByUserCode now u = some r ↔
      ∃ code, s.users.get? u = some code ∧ s.getByDeviceCode now code = some r := by
  unfold getByUserCode
  cases s.users.get? u with
  | none => simp
  | some code => simp

/-- A user code finds what the device code of that record finds. -/
theorem Paired.getByUserCode_iff (h : s.Paired) :
    s.getByUserCode now u = some r ↔
      s.getByDeviceCode now r.deviceCode = some r ∧ r.userCode = u := by
  rw [getByUserCode_eq_some]
  constructor
  · rintro ⟨code, hu, hr⟩
    have hdev := (getByDeviceCode_eq_some.1 hr).1
    rw [(h.device code r hdev).1]
    exact ⟨hr, (h.leads_iff hdev).1 hu⟩
  · rintro ⟨hr, rfl⟩
    exact ⟨r.deviceCode, (h.device _ r (getByDeviceCode_eq_some.1 hr).1).2, hr⟩

/-! ## Removals -/

theorem remove_of_none (h : s.devices.get? code = none) : s.remove code = s := by
  simp only [remove, h]

theorem remove_of_some (h : s.devices.get? code = some r) :
    s.remove code = ⟨s.devices.erase code,
      if s.users.get? r.userCode = some code then s.users.erase r.userCode else s.users⟩ := by
  simp only [remove, h]

theorem get?_devices_remove (s : MemoryStore) (code other : String) :
    (s.remove code).devices.get? other = if other = code then none else s.devices.get? other := by
  cases h : s.devices.get? code with
  | none =>
    rw [remove_of_none h]
    split
    · next heq => rw [heq]; exact h
    · rfl
  | some r =>
    rw [remove_of_some h]
    exact Table.get?_erase ..

/-- A removal frees the user code that leads to the device code, and no other. -/
theorem Paired.get?_users_remove (h : s.Paired) (code u : String) :
    (s.remove code).users.get? u =
      if s.users.get? u = some code then none else s.users.get? u := by
  cases hr : s.devices.get? code with
  | none =>
    -- No record, so no user code leads here.
    rw [remove_of_none hr]
    have hne : s.users.get? u ≠ some code := by
      intro hu
      obtain ⟨r, hr', _⟩ := h.user u code hu
      rw [hr] at hr'
      cases hr'
    rw [if_neg hne]
  | some r =>
    obtain ⟨_, hback⟩ := h.device code r hr
    rw [remove_of_some hr, if_pos hback, Table.get?_erase]
    by_cases hu : s.users.get? u = some code
    · rw [if_pos ((h.leads_iff hr).1 hu).symm, if_pos hu]
    · have hne : u ≠ r.userCode := by
        intro heq
        exact hu (heq ▸ hback)
      rw [if_neg hne, if_neg hu]

theorem Paired.remove (h : s.Paired) (code : String) : (s.remove code).Paired where
  device := by
    intro other r hr
    rw [get?_devices_remove] at hr
    split at hr
    · cases hr
    · next hne =>
      obtain ⟨hcode, hback⟩ := h.device other r hr
      refine ⟨hcode, ?_⟩
      rw [h.get?_users_remove, hback, if_neg]
      intro heq
      exact hne (Option.some.inj heq)
  user := by
    intro u other hu
    rw [h.get?_users_remove] at hu
    split at hu
    · cases hu
    · next hne =>
      obtain ⟨r, hr, huser⟩ := h.user u other hu
      refine ⟨r, ?_, huser⟩
      rw [get?_devices_remove, if_neg]
      · exact hr
      · rintro rfl
        exact hne hu

theorem Paired.foldl_remove (h : s.Paired) (codes : List String) :
    (codes.foldl MemoryStore.remove s).Paired := by
  induction codes generalizing s with
  | nil => exact h
  | cons code codes ih => exact ih (h.remove code)

theorem get?_devices_foldl_remove (s : MemoryStore) (codes : List String) (other : String) :
    (codes.foldl remove s).devices.get? other =
      if other ∈ codes then none else s.devices.get? other := by
  induction codes generalizing s with
  | nil => simp
  | cons code codes ih =>
    rw [List.foldl_cons, ih, get?_devices_remove]
    by_cases hmem : other ∈ codes
    · simp [hmem]
    · by_cases heq : other = code <;> simp [hmem, heq]

/-- Removing codes frees the user codes that lead to them, and no others. -/
theorem Paired.get?_users_foldl_remove (h : s.Paired) (codes : List String) (u : String) :
    (codes.foldl MemoryStore.remove s).users.get? u =
      (s.users.get? u).filter fun code => code ∉ codes := by
  induction codes generalizing s with
  | nil => cases hu : s.users.get? u <;> simp [hu, Option.filter]
  | cons code codes ih =>
    rw [List.foldl_cons, ih (h.remove code), h.get?_users_remove]
    cases hu : s.users.get? u with
    | none => simp
    | some owner =>
      by_cases heq : owner = code
      · simp [heq, Option.filter]
      · simp [heq, Option.filter]

/-! ## Inserts -/

theorem get?_devices_reclaim (s : MemoryStore) (r : DeviceRecord) (code : String) :
    (s.reclaim r).devices.get? code =
      if code = r.deviceCode ∨ s.users.get? r.userCode = some code then none
      else s.devices.get? code := by
  unfold reclaim
  cases hu : s.users.get? r.userCode with
  | none => simp [get?_devices_remove]
  | some owner =>
    simp only [get?_devices_remove, Option.some.injEq]
    by_cases hcode : code = r.deviceCode
    · simp [hcode]
    · by_cases howner : code = owner
      · simp [howner]
      · simp [hcode, howner, Ne.symm howner]

/-- Reclaiming frees both codes of the record, and the user code of the record that stood under
its device code. -/
theorem Paired.get?_users_reclaim (h : s.Paired) (r : DeviceRecord) (u : String) :
    (s.reclaim r).users.get? u =
      if u = r.userCode ∨ s.users.get? u = some r.deviceCode then none else s.users.get? u := by
  unfold reclaim
  cases howner : s.users.get? r.userCode with
  | none =>
    simp only [h.get?_users_remove]
    by_cases hu : u = r.userCode
    · simp [hu, howner]
    · simp [hu]
  | some owner =>
    simp only [(h.remove r.deviceCode).get?_users_remove, h.get?_users_remove]
    by_cases hu : u = r.userCode
    · subst hu
      rw [howner]
      by_cases heq : owner = r.deviceCode <;> simp [heq]
    · -- Another user code never leads to the owner.
      have hne : s.users.get? u ≠ some owner := by
        intro hleads
        obtain ⟨q, hq, huser⟩ := h.user u owner hleads
        exact hu (huser.symm.trans ((h.leads_iff hq).1 howner))
      by_cases hd : s.users.get? u = some r.deviceCode <;> simp [hu, hd, hne]

theorem Paired.reclaim (h : s.Paired) (r : DeviceRecord) : (s.reclaim r).Paired := by
  unfold MemoryStore.reclaim
  cases s.users.get? r.userCode with
  | none => exact h.remove r.deviceCode
  | some owner => exact (h.remove r.deviceCode).remove owner

/-- A record whose two codes are free may be put. -/
theorem Paired.put (h : s.Paired) (hdevice : s.devices.get? r.deviceCode = none)
    (huser : s.users.get? r.userCode = none) : (s.put r).Paired where
  device := by
    intro code q hq
    simp only [MemoryStore.put, Table.get?_put] at hq ⊢
    split at hq
    · next heq =>
      cases hq
      exact ⟨heq.symm, by simp [heq]⟩
    · obtain ⟨hcode, hback⟩ := h.device code q hq
      have hne : q.userCode ≠ r.userCode := by
        intro heq
        rw [heq, huser] at hback
        cases hback
      exact ⟨hcode, by rw [if_neg hne]; exact hback⟩
  user := by
    intro u code hu
    simp only [MemoryStore.put, Table.get?_put] at hu ⊢
    split at hu
    · next heq =>
      cases hu
      exact ⟨r, by simp, heq.symm⟩
    · obtain ⟨q, hq, hquser⟩ := h.user u code hu
      have hne : code ≠ r.deviceCode := by
        rintro rfl
        rw [hdevice] at hq
        cases hq
      exact ⟨q, by rw [if_neg hne]; exact hq, hquser⟩

theorem Paired.reclaim_put (h : s.Paired) (r : DeviceRecord) : ((s.reclaim r).put r).Paired := by
  refine (h.reclaim r).put ?_ ?_
  · simp [get?_devices_reclaim]
  · simp [h.get?_users_reclaim]

theorem get?_devices_reclaim_put (s : MemoryStore) (r : DeviceRecord) (code : String) :
    ((s.reclaim r).put r).devices.get? code =
      if code = r.deviceCode then some r
      else if s.users.get? r.userCode = some code then none else s.devices.get? code := by
  simp only [put, Table.get?_put, get?_devices_reclaim]
  by_cases hcode : code = r.deviceCode <;> simp [hcode]

/-- A record that is put joins those that have other codes. -/
theorem Paired.get?_devices_reclaim_put_iff (h : s.Paired) (r q : DeviceRecord) (code : String) :
    ((s.reclaim r).put r).devices.get? code = some q ↔ code = r.deviceCode ∧ q = r ∨
      s.devices.get? code = some q ∧ code ≠ r.deviceCode ∧ q.userCode ≠ r.userCode := by
  rw [get?_devices_reclaim_put]
  by_cases hcode : code = r.deviceCode
  · simp [hcode, eq_comm]
  · by_cases hq : s.devices.get? code = some q
    · by_cases huser : q.userCode = r.userCode <;> simp [hcode, hq, h.leads_iff hq, huser]
    · simp [hcode, hq]

/-- What was put is found while it is live. -/
theorem getByDeviceCode_reclaim_put (s : MemoryStore) (hlive : r.isLive now = true) :
    ((s.reclaim r).put r).getByDeviceCode now r.deviceCode = some r :=
  getByDeviceCode_eq_some.2 ⟨by rw [get?_devices_reclaim_put, if_pos rfl], hlive⟩

theorem holdsLive_eq_false :
    s.holdsLive now r = false ↔
      s.getByDeviceCode now r.deviceCode = none ∧ s.getByUserCode now r.userCode = none := by
  simp [holdsLive]

theorem insertIfAbsent_of_holdsLive (h : s.holdsLive now r = true) :
    s.insertIfAbsent now r = (false, s) := by
  simp [insertIfAbsent, h]

theorem insertIfAbsent_of_free (h : s.holdsLive now r = false) :
    s.insertIfAbsent now r = (true, (s.reclaim r).put r) := by
  simp [insertIfAbsent, h]

theorem Paired.insertIfAbsent (h : s.Paired) (now : Instant) (r : DeviceRecord) :
    (s.insertIfAbsent now r).2.Paired := by
  cases hlive : s.holdsLive now r with
  | true => rw [insertIfAbsent_of_holdsLive hlive]; exact h
  | false => rw [insertIfAbsent_of_free hlive]; exact h.reclaim_put r

/-! ## Sweeps -/

theorem mem_expiredCodes :
    code ∈ s.expiredCodes now ↔ ∃ r, s.devices.get? code = some r ∧ r.isExpired now = true := by
  simp only [expiredCodes, List.mem_map, List.mem_filter, Prod.exists, Table.mem_entries_iff]
  constructor
  · rintro ⟨_, r, hr, rfl⟩
    exact ⟨r, hr⟩
  · rintro ⟨r, hr⟩
    exact ⟨code, r, hr, rfl⟩

/-- A sweep leaves what a look-up at its reading of the clock finds. -/
theorem get?_devices_deleteExpired (s : MemoryStore) (now : Instant) (code : String) :
    (s.deleteExpired now).2.devices.get? code = s.getByDeviceCode now code := by
  simp only [deleteExpired, get?_devices_foldl_remove, mem_expiredCodes, getByDeviceCode, live?]
  cases s.devices.get? code with
  | none => simp
  | some r => cases hexp : r.isExpired now <;> simp [Option.filter, DeviceRecord.isLive, hexp]

theorem Paired.deleteExpired (h : s.Paired) (now : Instant) : (s.deleteExpired now).2.Paired :=
  h.foldl_remove (s.expiredCodes now)

/-! ## Sizes -/

/-- The user codes are those of the records, each once. -/
theorem Paired.perm_names (h : s.Paired) :
    s.users.names.Perm (s.devices.entries.map (·.2.userCode)) := by
  refine (List.perm_ext_iff_of_nodup s.users.nodup ?_).2 fun u => ?_
  · refine List.Nodup.map_on ?_ (s.devices.nodup.of_map _)
    rintro ⟨code, r⟩ hr ⟨code', r'⟩ hr' heq
    have hback := (h.device code r (Table.mem_entries_iff.1 hr)).2
    have hback' := (h.device code' r' (Table.mem_entries_iff.1 hr')).2
    have hcode : code = code' := by
      simp only at heq
      rw [heq, hback'] at hback
      exact (Option.some.inj hback).symm
    subst hcode
    have hsame := (Table.mem_entries_iff.1 hr).symm.trans (Table.mem_entries_iff.1 hr')
    rw [Option.some.inj hsame]
  · constructor
    · intro hu
      obtain ⟨⟨_, code⟩, hmem, rfl⟩ := List.mem_map.1 hu
      obtain ⟨r, hr, huser⟩ := h.user _ code (Table.mem_entries_iff.1 hmem)
      exact List.mem_map.2 ⟨(code, r), Table.mem_entries_iff.2 hr, huser⟩
    · intro hu
      obtain ⟨⟨code, r⟩, hmem, rfl⟩ := List.mem_map.1 hu
      have hback := (h.device code r (Table.mem_entries_iff.1 hmem)).2
      exact List.mem_map.2 ⟨(r.userCode, code), Table.mem_entries_iff.2 hback, rfl⟩

theorem Paired.size_eq (h : s.Paired) : s.devices.size = s.users.size := by
  have hlen := h.perm_names.length_eq
  simpa [Table.names, Table.size] using hlen.symm

end MemoryStore

end DeviceGrant
