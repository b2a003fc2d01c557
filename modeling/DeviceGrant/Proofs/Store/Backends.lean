import DeviceGrant.Proofs.Store.Encoding
import DeviceGrant.Proofs.Store.History
import Mathlib.Data.Set.List
set_option autoImplicit false

/-! # The two stores agree

The store in memory and the shared store get the same calls at the same readings of the clock.
While the keys of one encode the tables of the other, every look-up, delete and sweep has the same
answer on both, and so has an insert that finds no expired holder of its codes: only the store in
memory takes such codes over. `Encodes` is kept by every call, so the answers stay the same through
a whole run: `backends_agree`.

What the shared store needs beyond that is stated of the inserts: a device code that is not empty,
seconds that can be read back, and a reading of the clock from which the time that a stored record
has left can be computed. `backends_differ` shows that the last cannot be left out. -/

namespace DeviceGrant

namespace SharedStore

/-! ## Runs -/

/-- The answer to a call, and the store after it. -/
def answer (s : SharedStore) (c : TimedCall) : Except Failure StoreAnswer × SharedStore :=
  match c.call with
  | .insert r => ((s.insertIfAbsent c.now r).1.value.map .stored, (s.insertIfAbsent c.now r).2)
  | .delete code => ((s.delete code).1.map .deleted, (s.delete code).2)
  | .deleteExpired => ((s.deleteExpired c.now).1.value.map .swept, (s.deleteExpired c.now).2)
  | .getByDeviceCode code => ((s.getByDeviceCode c.now code).map .found, s)
  | .getByUserCode code => ((s.getByUserCode c.now code).map .found, s)

/-- The store after a sequence of calls. -/
def run (s : SharedStore) (calls : List TimedCall) : SharedStore :=
  calls.foldl (fun s c => (s.answer c).2) s

/-- The calls with their answers. -/
def transcript (s : SharedStore) : List TimedCall → List (TimedCall × Except Failure StoreAnswer)
  | [] => []
  | c :: cs => (c, (s.answer c).1) :: (s.answer c).2.transcript cs

end SharedStore

/-! ## Records that a shared store finds again -/

/-- A record that a shared store finds under its codes: an empty device code counts as missing,
and a second of more than 4300 digits cannot be read back. -/
structure DeviceRecord.IsFindable (r : DeviceRecord) : Prop where
  deviceCode_ne : r.deviceCode ≠ ""
  secondsFit : r.SecondsFit 4300

theorem DeviceRecord.IsFindable.decode_encode {r : DeviceRecord} (h : r.IsFindable) :
    decode r.encode = .ok r :=
  DeviceRecord.decode_encode h.secondsFit

namespace MemoryStore

variable {m m' : MemoryStore} {now : Instant} {r : DeviceRecord} {d : String}

/-- A store all of whose records would be found in a shared store. -/
def Findable (m : MemoryStore) : Prop := ∀ d r, m.devices.get? d = some r → r.IsFindable

theorem Findable.of_erased {erased : String → Prop} [DecidablePred erased] (h : m.Findable)
    (hget : ∀ d, m'.devices.get? d = if erased d then none else m.devices.get? d) :
    m'.Findable := by
  intro d r hr
  rw [hget] at hr
  split at hr
  · cases hr
  · exact h d r hr

theorem Findable.remove (h : m.Findable) (code : String) : (m.remove code).Findable :=
  h.of_erased (get?_devices_remove m code)

theorem Findable.foldl_remove (h : m.Findable) (codes : List String) :
    (codes.foldl MemoryStore.remove m).Findable :=
  h.of_erased (get?_devices_foldl_remove m codes)

theorem Findable.reclaim (h : m.Findable) (r : DeviceRecord) : (m.reclaim r).Findable :=
  h.of_erased (get?_devices_reclaim m r)

theorem Findable.put (h : m.Findable) (hr : r.IsFindable) : (m.put r).Findable := by
  intro d q hq
  rw [MemoryStore.put, Table.get?_put] at hq
  split at hq
  · cases hq
    exact hr
  · exact h d q hq

theorem Findable.insertIfAbsent (h : m.Findable) (hr : r.IsFindable) (now : Instant) :
    (m.insertIfAbsent now r).2.Findable := by
  unfold MemoryStore.insertIfAbsent
  split
  · exact h
  · exact (h.reclaim r).put hr

/-- Inverse tables with the same records have the same user codes. -/
theorem Paired.get?_users_eq (h : m.Paired) (h' : m'.Paired)
    (hdevices : ∀ d, m'.devices.get? d = m.devices.get? d) (u : String) :
    m'.users.get? u = m.users.get? u := by
  refine Option.ext fun code => ?_
  constructor
  · intro hu
    obtain ⟨r, hr, rfl⟩ := h'.user u code hu
    rw [hdevices] at hr
    exact (h.device code r hr).2
  · intro hu
    obtain ⟨r, hr, rfl⟩ := h.user u code hu
    rw [← hdevices] at hr
    exact (h'.device code r hr).2

/-- Whether a record that has expired holds one of the two codes. -/
def HasExpiredHolder (m : MemoryStore) (now : Instant) (r : DeviceRecord) : Prop :=
  ∃ code q, m.devices.get? code = some q ∧ q.isExpired now = true ∧
    (q.deviceCode = r.deviceCode ∨ q.userCode = r.userCode)

theorem hasExpiredHolder_iff :
    m.HasExpiredHolder now r ↔ ∃ e ∈ m.devices.entries, e.2.isExpired now = true ∧
      (e.2.deviceCode = r.deviceCode ∨ e.2.userCode = r.userCode) := by
  constructor
  · rintro ⟨code, q, hq, hholder⟩
    exact ⟨(code, q), Table.mem_entries_iff.2 hq, hholder⟩
  · rintro ⟨e, he, hholder⟩
    exact ⟨e.1, e.2, Table.mem_entries_iff.1 he, hholder⟩

instance : Decidable (m.HasExpiredHolder now r) := decidable_of_iff _ hasExpiredHolder_iff.symm

/-- Without a live and without an expired holder, both codes of a record are free. -/
theorem Paired.free_of_not_held (h : m.Paired) (hlive : m.holdsLive now r = false)
    (hexpired : ¬ m.HasExpiredHolder now r) :
    m.devices.get? r.deviceCode = none ∧ m.users.get? r.userCode = none := by
  obtain ⟨hdevice, huser⟩ := holdsLive_eq_false.1 hlive
  have hnone : m.devices.get? r.deviceCode = none := by
    rw [Option.eq_none_iff_forall_ne_some]
    intro q hq
    cases hq' : q.isExpired now with
    | true => exact hexpired ⟨_, q, hq, hq', .inl (h.device _ q hq).1⟩
    | false =>
      have hfound := getByDeviceCode_eq_some.2 ⟨hq, by rw [DeviceRecord.isLive, hq']; rfl⟩
      rw [hdevice] at hfound
      cases hfound
  refine ⟨hnone, ?_⟩
  rw [Option.eq_none_iff_forall_ne_some]
  intro owner howner
  obtain ⟨q, hq, hquser⟩ := h.user _ owner howner
  cases hq' : q.isExpired now with
  | true => exact hexpired ⟨_, q, hq, hq', .inr hquser⟩
  | false =>
    have hfound := h.getByUserCode_iff.2
      ⟨getByDeviceCode_eq_some.2 ⟨(h.device _ q hq).1 ▸ hq, by rw [DeviceRecord.isLive, hq']; rfl⟩,
        hquser⟩
    rw [huser] at hfound
    cases hfound

/-- Without any holder of the two codes there is no live one. -/
theorem holdsLive_of_free
    (h : m.devices.get? r.deviceCode = none ∧ m.users.get? r.userCode = none) :
    m.holdsLive now r = false := by
  refine holdsLive_eq_false.2 ⟨?_, ?_⟩
  · rw [getByDeviceCode, h.1]
    rfl
  · rw [getByUserCode, h.2]

/-- With both codes free there is nothing to reclaim. -/
theorem reclaim_of_free (hdevice : m.devices.get? r.deviceCode = none)
    (huser : m.users.get? r.userCode = none) : m.reclaim r = m := by
  rw [reclaim, huser, remove_of_none hdevice]

/-- Whether the record of a device code has expired. -/
def holdsExpired (m : MemoryStore) (now : Instant) (code : String) : Bool :=
  (m.devices.get? code).any (·.isExpired now)

/-- A removal does not change whether the other records have expired. -/
theorem filter_holdsExpired_remove {code : String} {codes : List String} (hnew : code ∉ codes) :
    codes.filter ((m.remove code).holdsExpired now) = codes.filter (m.holdsExpired now) := by
  refine List.filter_congr fun other hother => ?_
  rw [holdsExpired, get?_devices_remove, if_neg]
  · rfl
  · rintro rfl
    exact hnew hother

theorem nodup_expiredCodes (m : MemoryStore) (now : Instant) : (m.expiredCodes now).Nodup :=
  m.devices.nodup.sublist (List.Sublist.map _ List.filter_sublist)

/-- What makes an insert do the same in a shared store as in this one. -/
structure Admits (m : MemoryStore) (now : Instant) (r : DeviceRecord) : Prop where
  findable : r.IsFindable
  noExpiredHolder : ¬ m.HasExpiredHolder now r
  /-- The time that a stored record has left can be computed. -/
  computable : (m.insertIfAbsent now r).1 = true →
    ∃ seconds, now.secondsUntil r.expiresAt = .ok seconds

end MemoryStore

namespace SharedStore.Encodes

variable {s : SharedStore} {m : MemoryStore} {now : Instant} {r : DeviceRecord} {d u : String}

/-! ## Look-ups -/

theorem stored?_eq (h : s.Encodes m) (hm : m.Findable) (d : String) :
    s.stored? d = .ok (m.devices.get? d) := by
  cases hd : m.devices.get? d with
  | none => exact h.stored?_of_none hd
  | some r => exact h.stored?_of_readable hd (hm d r hd).decode_encode

theorem getByDeviceCode_eq (h : s.Encodes m) (hm : m.Findable) (hup : s.service.failure = none)
    (d : String) : s.getByDeviceCode now d = .ok (m.getByDeviceCode now d) := by
  rw [getByDeviceCode, guarded_of_none hup, h.stored?_eq hm]
  rfl

theorem getByUserCode_eq (h : s.Encodes m) (hpaired : m.Paired) (hm : m.Findable)
    (hup : s.service.failure = none) (u : String) :
    s.getByUserCode now u = .ok (m.getByUserCode now u) := by
  rw [getByUserCode, guarded_of_none hup, value?, h.user]
  cases hu : m.users.get? u with
  | none =>
    rw [MemoryStore.getByUserCode, hu]
    rfl
  | some code =>
    obtain ⟨r, hr, huser⟩ := hpaired.user u code hu
    have hne : code ≠ "" := by
      rw [← (hpaired.device code r hr).1]
      exact (hm code r hr).deviceCode_ne
    have hvalue : (some code).filter (!·.isEmpty) = some code := by simp [hne]
    rw [hvalue]
    dsimp only
    rw [h.getByDeviceCode_eq hm hup, MemoryStore.getByUserCode, hu]
    dsimp only [Except.map]
    -- The record that is found has the user code, so the last comparison keeps it.
    cases hfound : m.getByDeviceCode now code with
    | none => rfl
    | some q =>
      have hq := (MemoryStore.getByDeviceCode_eq_some.1 hfound).1
      rw [hr] at hq
      cases hq
      rw [Option.filter, decide_eq_true huser, if_pos rfl]

/-! ## Inserts -/

/-- An insert that finds no expired holder of its codes is refused by both stores, or its two
codes are free in both. -/
theorem insertIfAbsent_eq (h : s.Encodes m) (hpaired : m.Paired)
    (hup : s.service.failure = none) (hadmits : m.Admits now r) :
    (s.insertIfAbsent now r).1.value = .ok (m.insertIfAbsent now r).1 ∧
      (s.insertIfAbsent now r).2.Encodes (m.insertIfAbsent now r).2 ∧
      (s.insertIfAbsent now r).2.service.failure = none ∧
      (s.insertIfAbsent now r).2.keyPrefix = s.keyPrefix := by
  have hcomputable := hadmits.computable
  cases hlive : m.holdsLive now r with
  | true =>
    -- A live holder has its keys in the shared store too.
    have htaken : ¬ s.Free r := by
      intro hfree
      rw [MemoryStore.holdsLive_of_free (h.free_iff.1 hfree)] at hlive
      cases hlive
    obtain ⟨hvalue, hstore⟩ := insertIfAbsent_of_not_free now hup htaken
    rw [MemoryStore.insertIfAbsent_of_holdsLive hlive, hvalue, hstore]
    exact ⟨rfl, h, hup, rfl⟩
  | false =>
    have hcodes := hpaired.free_of_not_held hlive hadmits.noExpiredHolder
    obtain ⟨hvalue, hwritten⟩ := insertIfAbsent_of_free now hup (h.free_iff.2 hcodes)
    rw [MemoryStore.insertIfAbsent_of_free hlive] at hcomputable ⊢
    obtain ⟨n, hn⟩ := hcomputable rfl
    rw [hvalue, secondsToLive, hn, MemoryStore.reclaim_of_free hcodes.1 hcodes.2]
    exact ⟨rfl, h.written hwritten, hwritten.failure, hwritten.keyPrefix⟩

/-! ## Deletes -/

theorem delete_eq (h : s.Encodes m) (hpaired : m.Paired) (hm : m.Findable)
    (hup : s.service.failure = none) (code : String) :
    (s.delete code).1 = .ok (m.delete code).1 ∧ (s.delete code).2.Encodes (m.delete code).2 := by
  cases hd : m.devices.get? code with
  | none =>
    rw [h.delete_of_none hup hd, MemoryStore.delete, Table.contains, hd,
      MemoryStore.remove_of_none hd]
    exact ⟨rfl, h⟩
  | some r =>
    rw [MemoryStore.delete, Table.contains, hd]
    exact h.delete_of_some hpaired hup hd (hm code r hd).decode_encode

/-! ## Sweeps -/

theorem sweepKey_of_not_holdsExpired (h : s.Encodes m) {code : String}
    (hfit : ∀ r, m.devices.get? code = some r → r.SecondsFit 4300)
    (hexpired : m.holdsExpired now code = false) :
    s.sweepKey now (s.deviceKey code) = (.ok false, s) := by
  cases hd : m.devices.get? code with
  | none => exact h.sweepKey_of_none hd
  | some r =>
    rw [MemoryStore.holdsExpired, hd] at hexpired
    exact h.sweepKey_of_live hd (DeviceRecord.decode_encode (hfit r hd)) hexpired

theorem sweepKey_of_holdsExpired (h : s.Encodes m) (hpaired : m.Paired) {code : String}
    (hfit : ∀ r, m.devices.get? code = some r → r.SecondsFit 4300)
    (hexpired : m.holdsExpired now code = true) :
    (s.sweepKey now (s.deviceKey code)).1 = .ok true ∧
      (s.sweepKey now (s.deviceKey code)).2.Encodes (m.remove code) := by
  obtain ⟨r, hd, hr⟩ : ∃ r, m.devices.get? code = some r ∧ r.isExpired now = true := by
    simpa [MemoryStore.holdsExpired, Option.any_eq_true] using hexpired
  exact h.sweepKey_of_expired hpaired hd (DeviceRecord.decode_encode (hfit r hd)) hr

/-- A sweep over the keys of some device codes, whose records can be read, removes those of them
that have expired. -/
theorem sweepKeys_eq (now : Instant) (h : s.Encodes m) (hpaired : m.Paired) (codes : List String)
    (hfit : ∀ code ∈ codes, ∀ r, m.devices.get? code = some r → r.SecondsFit 4300)
    (hcodes : codes.Nodup) (removed : Nat) :
    (s.sweepKeys now (codes.map s.deviceKey) removed).1 =
        .ok (removed + (codes.filter (m.holdsExpired now)).length) ∧
      (s.sweepKeys now (codes.map s.deviceKey) removed).2.Encodes
        ((codes.filter (m.holdsExpired now)).foldl MemoryStore.remove m) := by
  induction codes generalizing s m removed with
  | nil => exact ⟨rfl, h⟩
  | cons code codes ih =>
    obtain ⟨hnew, hcodes⟩ := List.nodup_cons.1 hcodes
    have hfirst := hfit code (List.mem_cons_self ..)
    have hrest : ∀ code ∈ codes, ∀ r, m.devices.get? code = some r → r.SecondsFit 4300 :=
      fun other hother => hfit other (List.mem_cons_of_mem _ hother)
    rw [List.map_cons, sweepKeys]
    cases hexpired : m.holdsExpired now code with
    | false =>
      rw [h.sweepKey_of_not_holdsExpired hfirst hexpired,
        List.filter_cons_of_neg (by simp [hexpired])]
      exact ih h hpaired hrest hcodes removed
    | true =>
      obtain ⟨hgone, henc⟩ := h.sweepKey_of_holdsExpired hpaired hfirst hexpired
      have hkeys := s.deviceKey_sweepKey now (s.deviceKey code)
      rw [List.filter_cons_of_pos hexpired, List.foldl_cons, List.length_cons]
      generalize s.sweepKey now (s.deviceKey code) = swept at hgone henc hkeys
      obtain ⟨gone, t⟩ := swept
      subst hgone
      have hleft : ∀ other ∈ codes, ∀ r, (m.remove code).devices.get? other = some r →
          r.SecondsFit 4300 := by
        intro other hother r hr
        rw [MemoryStore.get?_devices_remove] at hr
        split at hr
        · cases hr
        · exact hrest other hother r hr
      have hnext := ih henc (hpaired.remove code) hleft hcodes (removed + 1)
      rw [MemoryStore.filter_holdsExpired_remove hnew, hkeys] at hnext
      rw [Nat.add_comm _ 1, ← Nat.add_assoc]
      exact hnext

/-- A sweep goes over the device codes of the records whose keys it finds, each once. -/
theorem exists_scan_eq (h : s.Encodes m) (honly : s.FindsOnlyDeviceKeys) :
    ∃ codes : List String, s.service.scan (s.deviceKeyPrefix ++ "*") = codes.map s.deviceKey ∧
      codes.Nodup ∧
      ∀ d, d ∈ codes ↔ m.devices.get? d ≠ none ∧ s.Finds (s.deviceKey d) := by
  obtain ⟨codes, hcodes⟩ : ∃ codes : List String,
      codes.map s.deviceKey = s.service.scan (s.deviceKeyPrefix ++ "*") := by
    rw [← Set.mem_range, Set.range_list_map]
    intro key hkey
    obtain ⟨hthere, hfinds⟩ := mem_scan_iff.1 hkey
    obtain ⟨d, rfl⟩ := honly key hthere hfinds
    exact ⟨d, rfl⟩
  refine ⟨codes, hcodes.symm, ?_, fun d => ?_⟩
  · refine List.Nodup.of_map s.deviceKey ?_
    rw [hcodes]
    exact s.service.values.nodup.filter _
  · rw [← List.mem_map_of_injective fun _ _ => deviceKey_injective, hcodes, mem_scan_iff, ne_eq,
      h.device_eq_none]

theorem deleteExpired_eq (now : Instant) (h : s.Encodes m) (hpaired : m.Paired) (hm : m.Findable)
    (hup : s.service.failure = none) (hplain : s.PlainPrefix) :
    (s.deleteExpired now).1.value = .ok (m.deleteExpired now).1 ∧
      (s.deleteExpired now).2.Encodes (m.deleteExpired now).2 := by
  obtain ⟨codes, hscan, hnodup, hmem⟩ := h.exists_scan_eq hplain.findsOnlyDeviceKeys
  obtain ⟨hcount, henc⟩ := h.sweepKeys_eq now hpaired codes
    (fun code _ r hr => (hm code r hr).secondsFit) hnodup 0
  -- Both sweeps remove the same codes, each in its own order.
  have hmem' : ∀ d, d ∈ codes.filter (m.holdsExpired now) ↔ d ∈ m.expiredCodes now := by
    intro d
    rw [List.mem_filter, hmem, and_iff_left (hplain.finds d), MemoryStore.mem_expiredCodes,
      MemoryStore.holdsExpired]
    cases m.devices.get? d <;> simp
  have hperm : (codes.filter (m.holdsExpired now)).Perm (m.expiredCodes now) :=
    (List.perm_ext_iff_of_nodup (hnodup.filter _) (m.nodup_expiredCodes now)).2 hmem'
  have hstore : (s.sweepKeys now (codes.map s.deviceKey) 0).2.Encodes (m.deleteExpired now).2 := by
    have hdevices : ∀ d, (m.deleteExpired now).2.devices.get? d =
        ((codes.filter (m.holdsExpired now)).foldl MemoryStore.remove m).devices.get? d := by
      intro d
      simp only [MemoryStore.deleteExpired, MemoryStore.get?_devices_foldl_remove, hmem']
    exact henc.congr hdevices
      ((hpaired.foldl_remove _).get?_users_eq (hpaired.deleteExpired now) hdevices)
  rw [hperm.length_eq, Nat.zero_add] at hcount
  rw [deleteExpired, hup, hscan]
  generalize s.sweepKeys now (codes.map s.deviceKey) 0 = swept at hcount hstore
  obtain ⟨count, t⟩ := swept
  subst hcount
  exact ⟨rfl, hstore⟩

end SharedStore.Encodes

/-! ## One call -/

/-- A shared store under a plain prefix that can be reached and does what a store in memory does:
its keys encode the two tables. -/
structure SharedStore.Mirrors (s : SharedStore) (m : MemoryStore) : Prop where
  encodes : s.Encodes m
  paired : m.Paired
  findable : m.Findable
  reachable : s.service.failure = none
  plainPrefix : s.PlainPrefix

/-- Whether the store in memory admits all of the calls; only inserts are restricted. -/
def MemoryStore.AdmitsAll (m : MemoryStore) : List TimedCall → Prop
  | [] => True
  | c :: cs => (∀ r, c.call = .insert r → m.Admits c.now r) ∧ (m.answer c).2.AdmitsAll cs

theorem MemoryStore.AdmitsAll.of_append {m : MemoryStore} {calls later : List TimedCall}
    (h : m.AdmitsAll (calls ++ later)) : m.AdmitsAll calls := by
  induction calls generalizing m with
  | nil => trivial
  | cons c cs ih => exact ⟨h.1, ih h.2⟩

namespace SharedStore.Mirrors

variable {s : SharedStore} {m : MemoryStore}

theorem of_empty {keyPrefix : String} (h : (SharedStore.empty keyPrefix).PlainPrefix) :
    (SharedStore.empty keyPrefix).Mirrors .empty where
  encodes := encodes_empty keyPrefix
  paired := MemoryStore.paired_empty
  findable _ _ hr := by cases hr
  reachable := rfl
  plainPrefix := h

/-- A removal keeps the service and the prefix as they were. -/
theorem of_shrunk (h : s.Mirrors m) {t : SharedStore} {m' : MemoryStore} (hshrunk : s.Shrunk t)
    (hencodes : t.Encodes m') (hpaired : m'.Paired) (hfindable : m'.Findable) : t.Mirrors m' where
  encodes := hencodes
  paired := hpaired
  findable := hfindable
  reachable := hshrunk.failure.trans h.reachable
  plainPrefix := by
    rw [PlainPrefix, hshrunk.keyPrefix]
    exact h.plainPrefix

/-- Both stores give the same answer to a call, and go on doing so. -/
theorem answer (h : s.Mirrors m) {c : TimedCall}
    (hadmits : ∀ r, c.call = .insert r → m.Admits c.now r) :
    (s.answer c).1 = .ok (m.answer c).1 ∧ (s.answer c).2.Mirrors (m.answer c).2 := by
  obtain ⟨now, call⟩ := c
  cases call with
  | insert r =>
    have hr := hadmits r rfl
    obtain ⟨hvalue, hencodes, hreachable, hkeyPrefix⟩ :=
      h.encodes.insertIfAbsent_eq h.paired h.reachable hr
    refine ⟨congrArg (Except.map StoreAnswer.stored) hvalue, hencodes,
      h.paired.insertIfAbsent now r, h.findable.insertIfAbsent hr.findable now, hreachable, ?_⟩
    rw [PlainPrefix, SharedStore.answer, hkeyPrefix]
    exact h.plainPrefix
  | delete code =>
    obtain ⟨hvalue, hencodes⟩ := h.encodes.delete_eq h.paired h.findable h.reachable code
    exact ⟨congrArg (Except.map StoreAnswer.deleted) hvalue,
      h.of_shrunk (s.shrunk_delete code) hencodes (h.paired.remove code) (h.findable.remove code)⟩
  | deleteExpired =>
    obtain ⟨hvalue, hencodes⟩ := h.encodes.deleteExpired_eq now h.paired h.findable
      h.reachable h.plainPrefix
    exact ⟨congrArg (Except.map StoreAnswer.swept) hvalue,
      h.of_shrunk (s.shrunk_deleteExpired now) hencodes (h.paired.deleteExpired now)
        (h.findable.foldl_remove _)⟩
  | getByDeviceCode code =>
    exact ⟨congrArg (Except.map StoreAnswer.found)
      (h.encodes.getByDeviceCode_eq h.findable h.reachable code), h⟩
  | getByUserCode code =>
    exact ⟨congrArg (Except.map StoreAnswer.found)
      (h.encodes.getByUserCode_eq h.paired h.findable h.reachable code), h⟩

end SharedStore.Mirrors

/-! ## Runs -/

/-- Both stores give the same answers in a whole run. -/
theorem SharedStore.Mirrors.run {s : SharedStore} {m : MemoryStore} (h : s.Mirrors m)
    {calls : List TimedCall} (hadmits : m.AdmitsAll calls) :
    s.transcript calls = (m.transcript calls).map (fun e => (e.1, .ok e.2)) ∧
      (s.run calls).Mirrors (m.run calls) := by
  induction calls generalizing s m with
  | nil => exact ⟨rfl, h⟩
  | cons c cs ih =>
    obtain ⟨hanswer, hnext⟩ := h.answer hadmits.1
    obtain ⟨hanswers, hlast⟩ := ih hnext hadmits.2
    rw [transcript, MemoryStore.transcript, List.map_cons, hanswer, hanswers]
    exact ⟨rfl, hlast⟩

/-- A shared store under a plain prefix and a store in memory, both without records at first, give
the same answers to the same calls at the same readings, and throughout the run the keys of the
one are exactly the encoding of the two tables of the other. The calls may be any, and the clock
may show anything, as long as every record that is inserted has a device code that is not empty,
has seconds of at most 4300 digits, does not take over a code from an expired holder, and is
stored, if it is, at a reading from which the time that it has left can be computed. -/
theorem backends_agree (keyPrefix : String)
    (hplain : (SharedStore.empty keyPrefix).PlainPrefix) (calls : List TimedCall)
    (hadmits : MemoryStore.empty.AdmitsAll calls) :
    (SharedStore.empty keyPrefix).transcript calls =
        (MemoryStore.empty.transcript calls).map (fun e => (e.1, .ok e.2)) ∧
      ∀ past, past <+: calls →
        ((SharedStore.empty keyPrefix).run past).Encodes (MemoryStore.empty.run past) := by
  have hstart := SharedStore.Mirrors.of_empty hplain
  refine ⟨(hstart.run hadmits).1, ?_⟩
  rintro past ⟨later, rfl⟩
  exact (hstart.run hadmits.of_append).2.encodes

open MemoryStore (sampleRecord)

/-- A code is refused while its record is live, and used again after a sweep. -/
def reuse : List TimedCall :=
  [⟨.whole 0, .insert (sampleRecord "d1" "u" 5)⟩, ⟨.whole 5, .insert (sampleRecord "d2" "u" 9)⟩,
    ⟨.whole 6, .deleteExpired⟩, ⟨.whole 7, .insert (sampleRecord "d2" "u" 9)⟩,
    ⟨.whole 9, .getByUserCode "u"⟩, ⟨.whole 9, .delete "d2"⟩]

theorem backends_agree_reuse :
    (SharedStore.empty "device_flow").PlainPrefix ∧ MemoryStore.empty.AdmitsAll reuse ∧
      (SharedStore.empty "device_flow").transcript reuse =
        (MemoryStore.empty.transcript reuse).map (fun e => (e.1, .ok e.2)) ∧
      (MemoryStore.empty.transcript reuse).map (·.2) =
        [.stored true, .stored false, .swept 1, .stored true,
          .found (some (sampleRecord "d2" "u" 9)), .deleted true] := by
  have hplain : (SharedStore.empty "device_flow").PlainPrefix := by decide
  have hadmits : MemoryStore.empty.AdmitsAll reuse := by
    refine ⟨?_, ?_, ?_, ?_, ?_, ?_, trivial⟩ <;> rintro r ⟨⟩
    · exact ⟨⟨by decide, by decide, by decide⟩, by decide, fun _ => ⟨5, rfl⟩⟩
    · exact ⟨⟨by decide, by decide, by decide⟩, by decide, fun _ => ⟨4, rfl⟩⟩
    · exact ⟨⟨by decide, by decide, by decide⟩, by decide, fun _ => ⟨2, rfl⟩⟩
  exact ⟨hplain, hadmits, (backends_agree "device_flow" hplain reuse hadmits).1, by decide⟩

/-! ## A record that only the store in memory takes -/

section Differences

open scoped Number

/-- A record whose second of expiry is above all doubles. -/
def distant : DeviceRecord := sampleRecord "d" "u" (10 ^ 400 : Nat)

/-- Half past a second. -/
def half : Instant := .fractional (.nearest false 2001 2)

theorem secondsToLive_distant :
    SharedStore.secondsToLive half distant = .error .secondTooLarge := by
  decide +kernel

theorem isFindable_distant : distant.IsFindable where
  deviceCode_ne := by decide
  secondsFit := by
    constructor <;> (rw [Json.digitCount_le_iff (by decide)]; decide +kernel)

/-- At half past a second the time that is left until the distant second cannot be computed: the
store in memory takes the record, and the insert into the shared store fails. -/
theorem backends_differ :
    (SharedStore.empty "device_flow").PlainPrefix ∧ distant.IsFindable ∧
    ¬ MemoryStore.empty.HasExpiredHolder half distant ∧
    (MemoryStore.empty.transcript [⟨half, .insert distant⟩]).map (·.2) = [.stored true] ∧
    ((SharedStore.empty "device_flow").transcript [⟨half, .insert distant⟩]).map (·.2) =
      [.error .secondTooLarge] := by
  have hempty := SharedStore.encodes_empty "device_flow"
  have hfree : (SharedStore.empty "device_flow").Free distant := hempty.free_iff.2 ⟨rfl, rfl⟩
  have hinsert := (SharedStore.insertIfAbsent_of_free half rfl hfree).1
  rw [secondsToLive_distant] at hinsert
  refine ⟨by decide, isFindable_distant, by decide, by decide +kernel, ?_⟩
  simp only [SharedStore.transcript, SharedStore.answer, hinsert]
  rfl

end Differences

end DeviceGrant
