import DeviceGrant.Proofs.Store.Patterns
import DeviceGrant.Proofs.Store.Retention
set_option autoImplicit false

/-! # What a sweep of a shared store reclaims

A sweep goes over the keys that its pattern fits, and the pattern has the prefix of the store in it
as it is. While it fits no other keys than those of device codes, a sweep removes exactly the
expired records among those that it finds, with both of their keys, unless it meets a record that
cannot be read. A prefix that fits its own text (`Text.Glob.OneByOne`) finds all of them. With a
star the pattern may also fit keys of user codes, and the sweep breaks off where it reads a device
code as if it were a record; with a class it does not fit the keys of the store at all.

What a sweep spares (`MemoryStore.Spares`) is kept by each of its steps, so a key at which it would
break off (`Breaks`) is still there when its turn comes. -/

namespace DeviceGrant

/-- What a sweep leaves of two inverse tables: no new record, and every record that is live or
cannot be read. -/
structure MemoryStore.Spares (m : MemoryStore) (now : Instant) (m' : MemoryStore) : Prop where
  paired : m'.Paired
  within : ∀ d r, m'.devices.get? d = some r → m.devices.get? d = some r
  spared : ∀ d r, m.devices.get? d = some r → r.isExpired now = false ∨ ¬ r.SecondsFit 4300 →
    m'.devices.get? d = some r

theorem MemoryStore.Spares.refl {m : MemoryStore} (h : m.Paired) (now : Instant) :
    m.Spares now m := ⟨h, fun _ _ hr => hr, fun _ _ hr _ => hr⟩

theorem MemoryStore.Paired.spares_remove {m : MemoryStore} {now : Instant} {r : DeviceRecord}
    {code : String} (h : m.Paired) (hr : m.devices.get? code = some r)
    (hexpired : r.isExpired now = true) (hfit : r.SecondsFit 4300) :
    m.Spares now (m.remove code) where
  paired := h.remove code
  within := by
    intro d q hq
    rw [MemoryStore.get?_devices_remove] at hq
    split at hq
    · cases hq
    · exact hq
  spared := by
    intro d q hq hspared
    rw [MemoryStore.get?_devices_remove, if_neg]
    · exact hq
    · rintro rfl
      rw [hr] at hq
      cases hq
      rcases hspared with hlive | hunreadable
      · rw [hexpired] at hlive
        cases hlive
      · exact hunreadable hfit

namespace SharedStore

variable {s t : SharedStore} {m m' : MemoryStore} {now : Instant} {r q : DeviceRecord}
  {key d u : String} {keys : List String}

/-! ## Held records -/

theorem Encodes.holds_iff (h : s.Encodes m) (hpaired : m.Paired) :
    s.Holds r ↔ m.devices.get? r.deviceCode = some r := by
  constructor
  · rintro ⟨hdevice, _⟩
    obtain ⟨q, hq, htext⟩ := h.device_eq_some.1 hdevice
    rwa [DeviceRecord.encode_injective htext] at hq
  · intro hr
    exact ⟨h.device_eq_some.2 ⟨r, hr, rfl⟩, by rw [h.user, (hpaired.device _ r hr).2]⟩

/-! ## Where a sweep breaks off -/

/-- A sweep breaks off at the key of a record that cannot be read, and at the key of a live record's
user code, unless the device code that stands there is empty or reads as a record. -/
inductive Breaks (s : SharedStore) (m : MemoryStore) (now : Instant) : String → Prop
  | deviceKey {d : String} {r : DeviceRecord} (held : m.devices.get? d = some r)
      (unreadable : ¬ r.SecondsFit 4300) : Breaks s m now (s.deviceKey d)
  | userKey {d : String} {r : DeviceRecord} (held : m.devices.get? d = some r)
      (live : r.isExpired now = false) (nonempty : d ≠ "")
      (noRecord : ∀ q, DeviceRecord.decode d ≠ .ok q) : Breaks s m now (s.userKey r.userCode)

/-- A key of a device code, or of a user code under which no text stands that reads as a record. -/
def KeyIsRead (s : SharedStore) (m : MemoryStore) (key : String) : Prop :=
  (∃ d, key = s.deviceKey d) ∨
    ∃ u, key = s.userKey u ∧ ∀ d, m.users.get? u = some d → ∀ q, DeviceRecord.decode d ≠ .ok q

theorem sweepKey_of_unread {text : String} {e : Rejection} (hvalue : s.value? key = some text)
    (hread : DeviceRecord.decode text = .error e) :
    s.sweepKey now key = (.error (.invalid e), s) := by
  simp only [sweepKey, hvalue, hread]

namespace Encodes

theorem sweepKey_of_breaks (h : s.Encodes m) (hpaired : m.Paired) (hbreaks : s.Breaks m now key) :
    ∃ f, (s.sweepKey now key).1 = .error f := by
  cases hbreaks with
  | deviceKey held unreadable =>
    have hread := DeviceRecord.decode_encode_of_not_fit unreadable
    exact ⟨_, by rw [h.sweepKey_of_unreadable held hread]⟩
  | @userKey d r held live nonempty noRecord =>
    have hvalue : s.value? (s.userKey r.userCode) = some d := by
      rw [value?, h.user, (hpaired.device d r held).2]
      simp [nonempty]
    cases hread : DeviceRecord.decode d with
    | ok q => exact absurd hread (noRecord q)
    | error e => exact ⟨_, by rw [sweepKey_of_unread hvalue hread]⟩

/-- A step of a sweep breaks it off, or leaves the encoding of tables from which an expired record
may be missing. -/
theorem sweepKey_cases (h : s.Encodes m) (hpaired : m.Paired) (now : Instant)
    (hkey : s.KeyIsRead m key) :
    (∃ f, (s.sweepKey now key).1 = .error f) ∨
      ∃ gone m', (s.sweepKey now key).1 = .ok gone ∧ (s.sweepKey now key).2.Encodes m' ∧
        m.Spares now m' := by
  have hsame := MemoryStore.Spares.refl hpaired now
  rcases hkey with ⟨d, rfl⟩ | ⟨u, rfl, hnone⟩
  · cases hd : m.devices.get? d with
    | none =>
      rw [h.sweepKey_of_none hd]
      exact .inr ⟨false, m, rfl, h, hsame⟩
    | some r =>
      by_cases hfit : r.SecondsFit 4300
      · have hread := DeviceRecord.decode_encode hfit
        cases hexpired : r.isExpired now with
        | false =>
          rw [h.sweepKey_of_live hd hread hexpired]
          exact .inr ⟨false, m, rfl, h, hsame⟩
        | true =>
          obtain ⟨hgone, hencodes⟩ := h.sweepKey_of_expired hpaired hd hread hexpired
          exact .inr ⟨true, m.remove d, hgone, hencodes, hpaired.spares_remove hd hexpired hfit⟩
      · exact .inl (h.sweepKey_of_breaks hpaired (.deviceKey hd hfit))
  · cases hvalue : s.value? (s.userKey u) with
    | none =>
      refine .inr ⟨false, m, ?_, ?_, hsame⟩ <;> simp only [sweepKey, hvalue]
      exact h
    | some text =>
      have htext : m.users.get? u = some text := by
        rw [← h.user]
        exact (Option.filter_eq_some_iff.1 hvalue).1
      cases hread : DeviceRecord.decode text with
      | ok q => exact absurd hread (hnone text htext q)
      | error e => exact .inl ⟨_, by rw [sweepKey_of_unread hvalue hread]⟩

/-- What a step leaves is swept on in the same way. -/
theorem keyIsRead_of_spares (h : s.KeyIsRead m key) (hpaired : m.Paired)
    (hspares : m.Spares now m') (hsame : t.keyPrefix = s.keyPrefix) : t.KeyIsRead m' key := by
  rcases h with ⟨d, rfl⟩ | ⟨u, rfl, hnone⟩
  · exact .inl ⟨d, (deviceKey_congr hsame d).symm⟩
  · refine .inr ⟨u, (userKey_congr hsame u).symm, fun d hd => hnone d ?_⟩
    obtain ⟨r, hr, rfl⟩ := hspares.paired.user u d hd
    exact (hpaired.device d r (hspares.within d r hr)).2

theorem breaks_of_spares (h : s.Breaks m now key) (hspares : m.Spares now m')
    (hsame : t.keyPrefix = s.keyPrefix) : t.Breaks m' now key := by
  cases h with
  | deviceKey held unreadable =>
    rw [← deviceKey_congr hsame]
    exact .deviceKey (hspares.spared _ _ held (.inr unreadable)) unreadable
  | userKey held live nonempty noRecord =>
    rw [← userKey_congr hsame]
    exact .userKey (hspares.spared _ _ held (.inl live)) live nonempty noRecord

/-- A sweep that comes to a key at which it breaks off does so there or before. -/
theorem sweepKeys_of_breaks (h : s.Encodes m) (hpaired : m.Paired)
    (hkeys : ∀ key ∈ keys, s.KeyIsRead m key) (hmem : key ∈ keys) (hbreaks : s.Breaks m now key)
    (removed : Nat) : ∃ f, (s.sweepKeys now keys removed).1 = .error f := by
  -- A step takes away expired records only, so the key breaks off the rest of the sweep as well.
  induction keys generalizing s m removed with
  | nil => cases hmem
  | cons first keys ih =>
    have hfirst := h.sweepKey_cases hpaired now (hkeys first (List.mem_cons_self ..))
    have hsame := (s.shrunk_sweepKey now first).keyPrefix
    have hhere : key = first → ∃ f, (s.sweepKey now first).1 = .error f := by
      rintro rfl
      exact h.sweepKey_of_breaks hpaired hbreaks
    rw [sweepKeys]
    generalize s.sweepKey now first = step at hfirst hsame hhere
    obtain ⟨result, t⟩ := step
    cases result with
    | error f => exact ⟨f, rfl⟩
    | ok gone =>
      rcases hfirst with ⟨f, hf⟩ | ⟨gone, m', _, hencodes, hspares⟩
      · cases hf
      · -- The key is not the first one, and it breaks off what is left of the sweep.
        have hother : key ≠ first := by
          intro heq
          obtain ⟨f, hf⟩ := hhere heq
          cases hf
        refine ih hencodes hspares.paired (fun other hother => ?_)
          ((List.mem_cons.1 hmem).resolve_left hother)
          (breaks_of_spares hbreaks hspares hsame) _
        exact keyIsRead_of_spares (hkeys other (List.mem_cons_of_mem _ hother)) hpaired hspares
          hsame

/-! ## Sweeps as a whole -/

theorem deleteExpired_of_breaks (h : s.Encodes m) (hpaired : m.Paired)
    (hup : s.service.failure = none)
    (hkeys : ∀ key, s.service.get? key ≠ none → s.Finds key → s.KeyIsRead m key)
    (hthere : s.service.get? key ≠ none) (hfinds : s.Finds key)
    (hbreaks : s.Breaks m now key) : ∃ f, (s.deleteExpired now).1.value = .error f := by
  obtain ⟨f, hf⟩ := h.sweepKeys_of_breaks hpaired
    (fun key hkey => hkeys key (mem_scan_iff.1 hkey).1 (mem_scan_iff.1 hkey).2)
    (mem_scan_iff.2 ⟨hthere, hfinds⟩) hbreaks 0
  refine ⟨f, ?_⟩
  rw [deleteExpired, hup]
  dsimp only
  generalize s.sweepKeys now (s.service.scan (s.deviceKeyPrefix ++ "*")) 0 = swept at hf
  obtain ⟨result, t⟩ := swept
  cases hf
  rfl

/-- A sweep that finds only records that can be read removes those of them that have expired. -/
theorem exists_swept (h : s.Encodes m) (hpaired : m.Paired) (now : Instant)
    (hup : s.service.failure = none) (honly : s.FindsOnlyDeviceKeys)
    (hfit : ∀ d r, m.devices.get? d = some r → s.Finds (s.deviceKey d) → r.SecondsFit 4300) :
    ∃ codes : List String, codes.Nodup ∧
      (∀ d, d ∈ codes ↔ ∃ r, m.devices.get? d = some r ∧ s.Finds (s.deviceKey d) ∧
        r.isExpired now = true) ∧
      (s.deleteExpired now).1.value = .ok codes.length ∧
      (s.deleteExpired now).2.Encodes (codes.foldl MemoryStore.remove m) := by
  obtain ⟨codes, hscan, hnodup, hmem⟩ := h.exists_scan_eq honly
  obtain ⟨hcount, hencodes⟩ := h.sweepKeys_eq now hpaired codes
    (fun code hcode r hr => hfit code r hr ((hmem code).1 hcode).2) hnodup 0
  refine ⟨codes.filter (m.holdsExpired now), hnodup.filter _, fun d => ?_, ?_⟩
  · rw [List.mem_filter, hmem, MemoryStore.holdsExpired]
    cases m.devices.get? d with
    | none => simp
    | some r => simp
  · rw [Nat.zero_add] at hcount
    rw [deleteExpired, hup, hscan]
    generalize s.sweepKeys now (codes.map s.deviceKey) 0 = swept at hcount hencodes
    obtain ⟨count, t⟩ := swept
    subst hcount
    exact ⟨rfl, hencodes⟩

end Encodes

/-! ## What is gone and what is kept -/

/-- The second store is the first one without the keys of some records. -/
structure Reclaimed (s t : SharedStore) (swept : List DeviceRecord) : Prop where
  gone : ∀ r ∈ swept, ∀ key, s.IsKeyOf r key →
    t.service.get? key = none ∧ t.service.ttls.get? key = none
  kept : ∀ key value, s.service.get? key = some value → (∀ r ∈ swept, ¬ s.IsKeyOf r key) →
    t.service.get? key = some value ∧ t.service.ttls.get? key = s.service.ttls.get? key
  absent : ∀ key, s.service.get? key = none → t.service.get? key = none

/-- Removing codes from the tables takes away the keys of their records. -/
theorem Shrunk.reclaimed (h : s.Shrunk t) (hencodes : s.Encodes m) (hpaired : m.Paired)
    {codes : List String} (hafter : t.Encodes (codes.foldl MemoryStore.remove m))
    {swept : List DeviceRecord} (hswept : ∀ r, r ∈ swept ↔ s.Holds r ∧ r.deviceCode ∈ codes) :
    s.Reclaimed t swept := by
  have hdevice : ∀ d, t.service.get? (s.deviceKey d) =
      if d ∈ codes then none else s.service.get? (s.deviceKey d) := by
    intro d
    rw [← deviceKey_congr h.keyPrefix, hafter.device, MemoryStore.get?_devices_foldl_remove,
      deviceKey_congr h.keyPrefix, hencodes.device]
    split <;> rfl
  have huser : ∀ u, t.service.get? (s.userKey u) =
      (s.service.get? (s.userKey u)).filter fun d => d ∉ codes := by
    intro u
    rw [← userKey_congr h.keyPrefix, hafter.user, hpaired.get?_users_foldl_remove,
      userKey_congr h.keyPrefix, hencodes.user]
  constructor
  · intro r hr key hkey
    obtain ⟨hheld, hcode⟩ := (hswept r).1 hr
    have hboth : s.service.get? key ≠ none ∧ t.service.get? key = none := by
      rcases hkey with rfl | rfl
      · rw [hdevice, if_pos hcode, hheld.1]
        simp
      · rw [huser, hheld.2]
        simp [Option.filter, hcode]
    refine ⟨hboth.2, ?_⟩
    cases h.change key with
    | gone value ttl => exact ttl
    | kept value ttl =>
      rw [value] at hboth
      exact absurd hboth.2 hboth.1
  · intro key value hvalue hother
    -- The key belongs to a held record, and that record was not swept.
    have hstays : t.service.get? key = some value := by
      rcases hencodes.only key (by simp [hvalue]) with ⟨d, rfl⟩ | ⟨u, rfl⟩
      · obtain ⟨r, hr, _⟩ := hencodes.device_eq_some.1 hvalue
        obtain ⟨rfl, _⟩ := hpaired.device d r hr
        have hleft : r.deviceCode ∉ codes := fun hcode => hother r
          ((hswept r).2 ⟨(hencodes.holds_iff hpaired).2 hr, hcode⟩) (.inl rfl)
        rw [hdevice, if_neg hleft, hvalue]
      · have hu := hvalue
        rw [hencodes.user] at hu
        obtain ⟨r, hr, rfl⟩ := hpaired.user u value hu
        obtain ⟨rfl, _⟩ := hpaired.device value r hr
        have hleft : r.deviceCode ∉ codes := fun hcode => hother r
          ((hswept r).2 ⟨(hencodes.holds_iff hpaired).2 hr, hcode⟩) (.inr rfl)
        rw [huser, hvalue]
        simp [Option.filter, hleft]
    exact ⟨hstays, ((h.change key).get?_eq_some hstays).2⟩
  · intro key hkey
    cases h.change key with
    | gone value _ => exact value
    | kept value _ => rw [value, hkey]

/-- The records of some codes, in their order. -/
theorem exists_records (hpaired : m.Paired) (codes : List String)
    (h : ∀ d ∈ codes, ∃ r, m.devices.get? d = some r) :
    ∃ records : List DeviceRecord, records.map (·.deviceCode) = codes ∧
      ∀ r ∈ records, m.devices.get? r.deviceCode = some r := by
  induction codes with
  | nil => exact ⟨[], rfl, by simp⟩
  | cons d codes ih =>
    obtain ⟨records, rfl, hrecords⟩ := ih fun d hd => h d (List.mem_cons_of_mem _ hd)
    obtain ⟨r, hr⟩ := h d (List.mem_cons_self ..)
    obtain ⟨rfl, _⟩ := hpaired.device d r hr
    refine ⟨r :: records, rfl, fun q hq => ?_⟩
    rcases List.mem_cons.1 hq with rfl | hq
    · exact hr
    · exact hrecords q hq

/-! ## Stores that are reached -/

/-- A store with other seconds to live recorded beside its keys. -/
def withTtls (s : SharedStore) (ttls : Table Int) : SharedStore :=
  { s with service := { s.service with ttls } }

theorem KeepsTables.answer (h : s.KeepsTables) {c : TimedCall} (hcall : c.call ≠ .deleteExpired) :
    (s.answer c).2.KeepsTables := by
  obtain ⟨now, call⟩ := c
  cases call with
  | insert r => exact h.insertIfAbsent now r
  | delete code => exact h.delete code
  | deleteExpired => exact absurd rfl hcall
  | getByDeviceCode code => exact h
  | getByUserCode code => exact h

/-- A call does not make the service fail. -/
theorem failure_answer (hup : s.service.failure = none) (c : TimedCall) :
    (s.answer c).2.service.failure = none := by
  obtain ⟨now, call⟩ := c
  cases call with
  | insert r =>
    rcases s.insertIfAbsent_cases now r with hsame | ⟨_, hwritten⟩
    · rw [SharedStore.answer, hsame]
      exact hup
    · exact hwritten.failure
  | delete code => exact (s.shrunk_delete code).failure.trans hup
  | deleteExpired => exact (s.shrunk_deleteExpired now).failure.trans hup
  | getByDeviceCode code => exact hup
  | getByUserCode code => exact hup

/-- Without sweeps the keys stay those of two tables, whatever the prefix is. -/
theorem KeepsTables.run (h : s.KeepsTables) (hup : s.service.failure = none)
    (calls : List TimedCall) (hcalls : ∀ c ∈ calls, c.call ≠ .deleteExpired) :
    (s.run calls).KeepsTables ∧ (s.run calls).service.failure = none ∧
      (s.run calls).keyPrefix = s.keyPrefix := by
  induction calls generalizing s with
  | nil => exact ⟨h, hup, rfl⟩
  | cons c calls ih =>
    obtain ⟨htables, hfailure, hkeyPrefix⟩ := ih (h.answer (hcalls c (List.mem_cons_self ..)))
      (failure_answer hup c) fun c hc => hcalls c (List.mem_cons_of_mem _ hc)
    exact ⟨htables, hfailure, hkeyPrefix.trans (s.keyPrefix_happen (.call c))⟩

/-! ## The sweep of a reached store -/

/-- A prefix that fits its own text finds all keys of device codes and no others. -/
theorem KeepsTables.findsOnlyDeviceKeys (h : s.KeepsTables)
    (honeByOne : Text.Glob.OneByOne s.keyPrefix.toList) : s.FindsOnlyDeviceKeys := by
  obtain ⟨m, _, hencodes⟩ := h
  intro key hkey hfinds
  rcases hencodes.only key hkey with hdevice | ⟨u, rfl⟩
  · exact hdevice
  · exact absurd hfinds (not_finds_userKey_of_oneByOne honeByOne u)

/-- A sweep that finds only keys of device codes fails exactly if it finds a record that cannot be
read, and otherwise removes the expired records that it finds, and nothing else. -/
theorem KeepsTables.deleteExpired_of_findsOnly (h : s.KeepsTables)
    (hup : s.service.failure = none) (honly : s.FindsOnlyDeviceKeys) (now : Instant) :
    let out := s.deleteExpired now
    ((∃ f, out.1.value = .error f) ↔
      ∃ r, s.Holds r ∧ s.Finds (s.deviceKey r.deviceCode) ∧ ¬ r.SecondsFit 4300) ∧
    ∀ n, out.1.value = .ok n → ∃ swept : List DeviceRecord, swept.Nodup ∧ swept.length = n ∧
      (∀ r, r ∈ swept ↔ s.Holds r ∧ s.Finds (s.deviceKey r.deviceCode) ∧
        r.isExpired now = true) ∧
      s.Reclaimed out.2 swept := by
  intro out
  obtain ⟨m, hpaired, hencodes⟩ := h
  have hbreaks : ∀ r, s.Holds r → s.Finds (s.deviceKey r.deviceCode) → ¬ r.SecondsFit 4300 →
      ∃ f, out.1.value = .error f := by
    intro r hr hfinds hfit
    have hthere : s.service.get? (s.deviceKey r.deviceCode) ≠ none := by simp [hr.1]
    exact hencodes.deleteExpired_of_breaks hpaired hup
      (fun key hkey hfound => .inl (honly key hkey hfound)) hthere hfinds
      (.deviceKey ((hencodes.holds_iff hpaired).1 hr) hfit)
  by_cases hunread : ∃ r, s.Holds r ∧ s.Finds (s.deviceKey r.deviceCode) ∧ ¬ r.SecondsFit 4300
  · obtain ⟨r, hr, hfinds, hfit⟩ := hunread
    obtain ⟨f, hf⟩ := hbreaks r hr hfinds hfit
    refine ⟨iff_of_true ⟨f, hf⟩ ⟨r, hr, hfinds, hfit⟩, fun n hn => ?_⟩
    rw [hf] at hn
    cases hn
  · have hfit : ∀ d r, m.devices.get? d = some r → s.Finds (s.deviceKey d) →
        r.SecondsFit 4300 := by
      intro d r hr hfinds
      obtain ⟨rfl, _⟩ := hpaired.device d r hr
      by_contra hfit
      exact hunread ⟨r, (hencodes.holds_iff hpaired).2 hr, hfinds, hfit⟩
    obtain ⟨codes, hnodup, hmem, hcount, hafter⟩ :=
      hencodes.exists_swept hpaired now hup honly hfit
    obtain ⟨swept, hcodes, hswept⟩ := exists_records hpaired codes fun d hd =>
      ((hmem d).1 hd).imp fun r hr => hr.1
    -- A code has one held record, so the records listed are all those with a swept code.
    have hiff : ∀ r, r ∈ swept ↔ s.Holds r ∧ r.deviceCode ∈ codes := by
      intro r
      rw [hencodes.holds_iff hpaired, ← hcodes, List.mem_map]
      constructor
      · intro hr
        exact ⟨hswept r hr, r, hr, rfl⟩
      · rintro ⟨hheld, q, hq, hcode⟩
        have hsame := hswept q hq
        rw [hcode, hheld] at hsame
        cases hsame
        exact hq
    refine ⟨iff_of_false ?_ hunread, fun n hn => ⟨swept, ?_, ?_, fun r => ?_, ?_⟩⟩
    · rintro ⟨f, hf⟩
      rw [hf] at hcount
      cases hcount
    · exact List.Nodup.of_map _ (hcodes ▸ hnodup)
    · rw [hn] at hcount
      rw [Except.ok.inj hcount, ← hcodes, List.length_map]
    · rw [hiff, hmem]
      constructor
      · rintro ⟨hheld, q, hq, hfinds, hexpired⟩
        rw [(hencodes.holds_iff hpaired).1 hheld] at hq
        cases hq
        exact ⟨hheld, hfinds, hexpired⟩
      · rintro ⟨hheld, hfinds, hexpired⟩
        exact ⟨hheld, r, (hencodes.holds_iff hpaired).1 hheld, hfinds, hexpired⟩
    · exact (s.shrunk_deleteExpired now).reclaimed hencodes hpaired hafter hiff

/-- A sweep that finds the user key of a live record takes the device code there for a record, and
fails. -/
theorem KeepsTables.deleteExpired_of_found_userKey (h : s.KeepsTables)
    (hup : s.service.failure = none)
    (hnone : ∀ q, s.Holds q → ∀ r, DeviceRecord.decode q.deviceCode ≠ .ok r)
    (hr : s.Holds r) (hfinds : s.Finds (s.userKey r.userCode)) (hlive : r.isExpired now = false)
    (hne : r.deviceCode ≠ "") : ∃ f, (s.deleteExpired now).1.value = .error f := by
  obtain ⟨m, hpaired, hencodes⟩ := h
  have hthere : s.service.get? (s.userKey r.userCode) ≠ none := by simp [hr.2]
  have hkeys : ∀ key, s.service.get? key ≠ none → s.Finds key → s.KeyIsRead m key := by
    intro key hkey _
    refine (hencodes.only key hkey).imp id ?_
    rintro ⟨u, rfl⟩
    refine ⟨u, rfl, fun d hd => ?_⟩
    obtain ⟨q, hq, rfl⟩ := hpaired.user u d hd
    obtain ⟨rfl, _⟩ := hpaired.device d q hq
    exact hnone q ((hencodes.holds_iff hpaired).2 hq)
  exact hencodes.deleteExpired_of_breaks hpaired hup hkeys hthere hfinds
    (.userKey ((hencodes.holds_iff hpaired).1 hr) hlive hne (hnone r hr))

/-- The sweep of a store that was reached from an empty one by calls other than sweeps, under any
prefix, at any reading of the clock and whatever seconds to live are recorded. A prefix all of whose
characters stand for one character each finds the keys of all device codes and no others. As long as
no other keys are found, the sweep fails exactly if it finds a record that cannot be read, and what
it removes otherwise are the expired ones of the records that it finds: it says how many they are,
both keys of each of them are gone, and every other key stands as before. But where it finds the
user key of a live record it fails, unless the device code is empty or some device code reads as a
record. -/
theorem sweep_reclaims_found (keyPrefix : String) (calls : List TimedCall)
    (hcalls : ∀ c ∈ calls, c.call ≠ .deleteExpired) (ttls : Table Int) (now : Instant) :
    let s := ((empty keyPrefix).run calls).withTtls ttls
    let out := s.deleteExpired now
    (Text.Glob.OneByOne keyPrefix.toList →
      s.FindsOnlyDeviceKeys ∧ ∀ d, s.Finds (s.deviceKey d)) ∧
    (s.FindsOnlyDeviceKeys →
      ((∃ f, out.1.value = .error f) ↔
        ∃ r, s.Holds r ∧ s.Finds (s.deviceKey r.deviceCode) ∧ ¬ r.SecondsFit 4300) ∧
      ∀ n, out.1.value = .ok n → ∃ swept : List DeviceRecord, swept.Nodup ∧ swept.length = n ∧
        (∀ r, r ∈ swept ↔ s.Holds r ∧ s.Finds (s.deviceKey r.deviceCode) ∧
          r.isExpired now = true) ∧
        s.Reclaimed out.2 swept) ∧
    ((∀ q, s.Holds q → ∀ r, DeviceRecord.decode q.deviceCode ≠ .ok r) →
      ∀ r, s.Holds r → s.Finds (s.userKey r.userCode) → r.isExpired now = false →
        r.deviceCode ≠ "" → ∃ f, out.1.value = .error f) := by
  intro s out
  have hempty : (empty keyPrefix).KeepsTables :=
    ⟨.empty, MemoryStore.paired_empty, encodes_empty keyPrefix⟩
  obtain ⟨⟨m, hpaired, hencodes⟩, hup, hkeyPrefix⟩ := hempty.run rfl calls hcalls
  -- The tables do not depend on the seconds to live.
  have htables : s.KeepsTables := ⟨m, hpaired, hencodes.device, hencodes.user, hencodes.only⟩
  refine ⟨fun honeByOne => ?_, fun honly => htables.deleteExpired_of_findsOnly hup honly now,
    fun hnone r hr hfinds hlive hne =>
      htables.deleteExpired_of_found_userKey hup hnone hr hfinds hlive hne⟩
  have hone : Text.Glob.OneByOne s.keyPrefix.toList := by
    rw [show s.keyPrefix = keyPrefix from hkeyPrefix]
    exact honeByOne
  exact ⟨htables.findsOnlyDeviceKeys hone, finds_deviceKey_of_oneByOne hone⟩

open MemoryStore (sampleRecord)

/-- Two records, the first of which expires at second 5. -/
def twoInserted : List TimedCall :=
  [⟨.whole 0, .insert (sampleRecord "d1" "u1" 5)⟩, ⟨.whole 0, .insert (sampleRecord "d2" "u2" 9)⟩]

/-- Under a prefix with a question mark and an open bracket the expired record is reclaimed. -/
theorem sweep_reclaims_found_expired :
    (∀ c ∈ twoInserted, c.call ≠ .deleteExpired) ∧
      ((((empty "a?[").run twoInserted).withTtls .empty).deleteExpired (.whole 6)).1.value = .ok 1 ∧
      (((empty "a?[").run twoInserted).withTtls .empty).Reclaimed
        ((((empty "a?[").run twoInserted).withTtls .empty).deleteExpired (.whole 6)).2
        [sampleRecord "d1" "u1" 5] := by
  have hcalls : ∀ c ∈ twoInserted, c.call ≠ .deleteExpired := by decide
  obtain ⟨hone, hsweep, _⟩ := sweep_reclaims_found "a?[" twoInserted hcalls .empty (.whole 6)
  obtain ⟨honly, hfinds⟩ := hone (by decide)
  have hcount : ((((empty "a?[").run twoInserted).withTtls .empty).deleteExpired
      (.whole 6)).1.value = .ok 1 := by
    decide +kernel
  have hheld : (((empty "a?[").run twoInserted).withTtls .empty).Holds
      (sampleRecord "d1" "u1" 5) := by
    decide +kernel
  obtain ⟨swept, _, hlength, hmem, hreclaimed⟩ := (hsweep honly).2 1 hcount
  obtain ⟨r, rfl⟩ := List.length_eq_one_iff.1 hlength
  have hexpired := (hmem (sampleRecord "d1" "u1" 5)).2 ⟨hheld, hfinds _, by decide⟩
  rw [List.mem_singleton] at hexpired
  rw [hexpired]
  exact ⟨hcalls, hcount, hreclaimed⟩

/-- The pattern of the first prefix does not fit the keys of the store, and the expired record
stays; that of the second one fits the key of a user code, and the sweep fails. -/
theorem sweep_goes_astray :
    ((empty "[a]").run twoInserted).Holds (sampleRecord "d1" "u1" 5) ∧
    (sampleRecord "d1" "u1" 5).isExpired (.whole 6) = true ∧
    (((empty "[a]").run twoInserted).deleteExpired (.whole 6)).1.value = .ok 0 ∧
    (((empty "[a]").run twoInserted).deleteExpired (.whole 6)).2 = (empty "[a]").run twoInserted ∧
    (((empty "*").run [⟨.whole 0, .insert (sampleRecord "d" "a:device_code:b" 9)⟩]).deleteExpired
      (.whole 6)).1.value = .error (.invalid ⟨DeviceRecord.subject, [⟨[], .jsonMalformed⟩]⟩) := by
  decide +kernel

end SharedStore

end DeviceGrant
