import DeviceGrant.Proofs.Store.Backends
set_option autoImplicit false

/-! # The keys of a shared store and their seconds to live

A shared store may be called at any readings of the clock, and its service may start and end to
fail in between. Whatever happens, its keys come in pairs: `Holds` says that both keys of a record
are there, and each key that is there is one of them. Both keys of a record got the seconds to live
that were computed when the record was inserted, and have them as long as they stand.

The keys are set before the seconds to live are computed. At a reading from which they cannot be
computed the insert fails and leaves two keys without seconds to live (`keys_without_ttl`); in no
other case is a key without them. -/

namespace DeviceGrant

/-- What happens to a shared store: a call, or that its service starts or ends to fail. -/
inductive SharedEvent
  | call (c : TimedCall)
  | outage (message : Option String)
deriving DecidableEq

namespace SharedStore

open KeyValueService (KeyChange)

variable {s t : SharedStore} {m : MemoryStore} {now : Instant} {r q : DeviceRecord}

/-- The store after an event. -/
def happen (s : SharedStore) : SharedEvent → SharedStore
  | .call c => (s.answer c).2
  | .outage message => { s with service := { s.service with failure := message } }

/-- The store after a sequence of events. -/
def after (s : SharedStore) (events : List SharedEvent) : SharedStore := events.foldl happen s

theorem after_append_singleton (s : SharedStore) (events : List SharedEvent) (e : SharedEvent) :
    s.after (events ++ [e]) = (s.after events).happen e := by
  simp [after]

theorem after_insert (s : SharedStore) (now : Instant) (r : DeviceRecord) :
    s.after [.call ⟨now, .insert r⟩] = (s.insertIfAbsent now r).2 := rfl

/-! ## Every key belongs to a record -/

/-- Both keys of a record are there with their values. -/
def Holds (s : SharedStore) (r : DeviceRecord) : Prop :=
  s.service.get? (s.deviceKey r.deviceCode) = some r.encode ∧
    s.service.get? (s.userKey r.userCode) = some r.deviceCode

instance : Decidable (s.Holds r) := inferInstanceAs (Decidable (_ ∧ _))

/-- The keys are those of two tables that are inverse. -/
def KeepsTables (s : SharedStore) : Prop := ∃ m : MemoryStore, m.Paired ∧ s.Encodes m

namespace KeepsTables

theorem exists_holds (h : s.KeepsTables) {key : String} (hkey : s.service.get? key ≠ none) :
    ∃ r, s.Holds r ∧ s.IsKeyOf r key := by
  obtain ⟨m, hpaired, hencodes⟩ := h
  have hholds : ∀ code r, m.devices.get? code = some r → r.deviceCode = code ∧ s.Holds r := by
    intro code r hr
    obtain ⟨rfl, hback⟩ := hpaired.device code r hr
    exact ⟨rfl, hencodes.device_eq_some.2 ⟨r, hr, rfl⟩, by rw [hencodes.user, hback]⟩
  rcases hencodes.only key hkey with ⟨d, rfl⟩ | ⟨u, rfl⟩
  · obtain ⟨r, hr⟩ := Option.ne_none_iff_exists'.1 (mt hencodes.device_eq_none.2 hkey)
    obtain ⟨hcode, hr⟩ := hholds d r hr
    exact ⟨r, hr, .inl (congrArg s.deviceKey hcode.symm)⟩
  · rw [hencodes.user] at hkey
    obtain ⟨code, hu⟩ := Option.ne_none_iff_exists'.1 hkey
    obtain ⟨r, hr, huser⟩ := hpaired.user u code hu
    exact ⟨r, (hholds code r hr).2, .inr (congrArg s.userKey huser.symm)⟩

theorem insertIfAbsent (h : s.KeepsTables) (now : Instant) (r : DeviceRecord) :
    (s.insertIfAbsent now r).2.KeepsTables := by
  rcases s.insertIfAbsent_cases now r with hsame | ⟨hfree, hwritten⟩
  · rw [hsame]
    exact h
  · obtain ⟨m, hpaired, hencodes⟩ := h
    obtain ⟨hdevice, huser⟩ := hencodes.free_iff.1 hfree
    exact ⟨m.put r, hpaired.put hdevice huser, hencodes.written hwritten⟩

theorem delete (h : s.KeepsTables) (code : String) : (s.delete code).2.KeepsTables := by
  obtain ⟨m, hpaired, hencodes⟩ := h
  cases hfailure : s.service.failure with
  | some message =>
    rw [SharedStore.delete, guarded_of_failure hfailure]
    exact ⟨m, hpaired, hencodes⟩
  | none =>
    cases hd : m.devices.get? code with
    | none =>
      rw [hencodes.delete_of_none hfailure hd]
      exact ⟨m, hpaired, hencodes⟩
    | some r =>
      -- Only a record that can be read is removed, and it is the one that was written.
      cases hread : DeviceRecord.decode r.encode with
      | error e =>
        rw [hencodes.delete_of_unreadable hfailure hd hread]
        exact ⟨m, hpaired, hencodes⟩
      | ok q =>
        obtain rfl := DeviceRecord.eq_of_decode_encode hread
        exact ⟨m.remove code, hpaired.remove code,
          (hencodes.delete_of_some hpaired hfailure hd hread).2⟩

theorem sweepKey (h : s.KeepsTables) (now : Instant) (code : String) :
    (s.sweepKey now (s.deviceKey code)).2.KeepsTables := by
  obtain ⟨m, hpaired, hencodes⟩ := h
  cases hd : m.devices.get? code with
  | none =>
    rw [hencodes.sweepKey_of_none hd]
    exact ⟨m, hpaired, hencodes⟩
  | some r =>
    cases hread : DeviceRecord.decode r.encode with
    | error e =>
      rw [hencodes.sweepKey_of_unreadable hd hread]
      exact ⟨m, hpaired, hencodes⟩
    | ok q =>
      obtain rfl := DeviceRecord.eq_of_decode_encode hread
      cases hexpired : q.isExpired now with
      | false =>
        rw [hencodes.sweepKey_of_live hd hread hexpired]
        exact ⟨m, hpaired, hencodes⟩
      | true =>
        exact ⟨m.remove code, hpaired.remove code,
          (hencodes.sweepKey_of_expired hpaired hd hread hexpired).2⟩

theorem sweepKeys (h : s.KeepsTables) (now : Instant) (codes : List String) (removed : Nat) :
    (s.sweepKeys now (codes.map s.deviceKey) removed).2.KeepsTables := by
  induction codes generalizing s removed with
  | nil => exact h
  | cons code codes ih =>
    have hfirst := h.sweepKey now code
    have hkeys := s.deviceKey_sweepKey now (s.deviceKey code)
    rw [List.map_cons, SharedStore.sweepKeys]
    split
    · next heq =>
      rw [heq] at hfirst
      exact hfirst
    · next heq =>
      rw [heq] at hfirst hkeys
      rw [← hkeys]
      exact ih hfirst ..

theorem deleteExpired (h : s.KeepsTables) (hplain : s.PlainPrefix) (now : Instant) :
    (s.deleteExpired now).2.KeepsTables := by
  obtain ⟨codes, hscan, _⟩ := h.choose_spec.2.exists_scan_eq hplain.findsOnlyDeviceKeys
  unfold SharedStore.deleteExpired
  split
  · exact h
  · have hswept := h.sweepKeys now codes 0
    rw [← hscan] at hswept
    split
    · next heq =>
      rw [heq] at hswept
      exact hswept
    · next heq =>
      rw [heq] at hswept
      exact hswept

/-- An event keeps the tables. -/
theorem happen (h : s.KeepsTables) (hplain : s.PlainPrefix) (e : SharedEvent) :
    (s.happen e).KeepsTables := by
  cases e with
  | outage message =>
    -- The values of the service are the same before and after.
    obtain ⟨m, hpaired, hencodes⟩ := h
    exact ⟨m, hpaired, hencodes.device, hencodes.user, hencodes.only⟩
  | call c =>
    obtain ⟨now, call⟩ := c
    cases call with
    | insert r => exact h.insertIfAbsent now r
    | delete code => exact h.delete code
    | deleteExpired => exact h.deleteExpired hplain now
    | getByDeviceCode code => exact h
    | getByUserCode code => exact h

end KeepsTables

/-! ## What an event does to a key -/

/-- An event either inserts a record whose keys were not there, or sets no key. -/
theorem happen_cases (s : SharedStore) (e : SharedEvent) :
    (∃ now r, e = .call ⟨now, .insert r⟩ ∧ s.Free r ∧ s.Written (s.happen e) now r) ∨
      (s.happen e).keyPrefix = s.keyPrefix ∧
        ∀ key, KeyChange s.service (s.happen e).service key := by
  have hshrunk : ∀ {t}, s.Shrunk t →
      t.keyPrefix = s.keyPrefix ∧ ∀ key, KeyChange s.service t.service key :=
    fun h => ⟨h.keyPrefix, h.change⟩
  cases e with
  | outage message => exact .inr ⟨rfl, fun key => .kept rfl rfl⟩
  | call c =>
    obtain ⟨now, call⟩ := c
    cases call with
    | insert r =>
      rcases s.insertIfAbsent_cases now r with hsame | ⟨hfree, hwritten⟩
      · rw [happen, answer, hsame]
        exact .inr ⟨rfl, fun key => .refl _ key⟩
      · exact .inl ⟨now, r, rfl, hfree, hwritten⟩
    | delete code => exact .inr (hshrunk (s.shrunk_delete code))
    | deleteExpired => exact .inr (hshrunk (s.shrunk_deleteExpired now))
    | getByDeviceCode code => exact .inr (hshrunk (.refl s))
    | getByUserCode code => exact .inr (hshrunk (.refl s))

theorem keyPrefix_happen (s : SharedStore) (e : SharedEvent) :
    (s.happen e).keyPrefix = s.keyPrefix := by
  rcases s.happen_cases e with ⟨_, _, _, _, hwritten⟩ | ⟨hkeyPrefix, _⟩
  · exact hwritten.keyPrefix
  · exact hkeyPrefix

theorem keyPrefix_after (s : SharedStore) (events : List SharedEvent) :
    (s.after events).keyPrefix = s.keyPrefix := by
  induction events generalizing s with
  | nil => rfl
  | cons e events ih => exact (ih (s.happen e)).trans (s.keyPrefix_happen e)

/-! ## Seconds to live -/

theorem one_le_of_secondsToLive {n : Int} (h : secondsToLive now r = .ok n) : 1 ≤ n := by
  unfold secondsToLive at h
  cases hleft : now.secondsUntil r.expiresAt with
  | error f =>
    rw [hleft] at h
    cases h
  | ok left =>
    rw [hleft] at h
    obtain rfl : max left 1 = n := Except.ok.inj h
    exact le_max_right ..

/-- At a whole reading the seconds to live can always be computed. -/
theorem secondsToLive_whole (n : Int) (r : DeviceRecord) :
    secondsToLive (.whole n) r = .ok (max (r.expiresAt - n) 1) := rfl

/-- Both keys of a record have the seconds to live that were computed at a reading of the clock,
or none if they could not be computed. -/
def HasTtls (s : SharedStore) (now : Instant) (r : DeviceRecord) : Prop :=
  s.service.ttls.get? (s.deviceKey r.deviceCode) = (secondsToLive now r).toOption ∧
    s.service.ttls.get? (s.userKey r.userCode) = (secondsToLive now r).toOption

/-- The record was inserted at the reading, under keys that were not there, and its keys have been
there since. -/
inductive StandsSince (s : SharedStore) (now : Instant) (r : DeviceRecord) :
    List SharedEvent → Prop
  | inserted (past : List SharedEvent) (free : (s.after past).Free r)
      (holds : (s.after (past ++ [.call ⟨now, .insert r⟩])).Holds r) :
      StandsSince s now r (past ++ [.call ⟨now, .insert r⟩])
  | kept (events : List SharedEvent) (e : SharedEvent) (since : StandsSince s now r events)
      (holds : (s.after (events ++ [e])).Holds r) : StandsSince s now r (events ++ [e])

/-- The seconds to live after a sequence of events. -/
structure Dated (s : SharedStore) (events : List SharedEvent) : Prop where
  held : ∀ r, (s.after events).Holds r →
    ∃ now, s.StandsSince now r events ∧ (s.after events).HasTtls now r
  absent : ∀ key, (s.after events).service.get? key = none →
    (s.after events).service.ttls.get? key = none

/-- A key that is still there has the seconds to live that it had. -/
theorem Holds.of_change (hkeyPrefix : t.keyPrefix = s.keyPrefix)
    (hchange : ∀ key, KeyChange s.service t.service key) (h : t.Holds r) :
    s.Holds r ∧ ∀ now, s.HasTtls now r → t.HasTtls now r := by
  rw [Holds, deviceKey_congr hkeyPrefix, userKey_congr hkeyPrefix] at h
  obtain ⟨hdevice, hdevicettl⟩ := (hchange _).get?_eq_some h.1
  obtain ⟨huser, huserttl⟩ := (hchange _).get?_eq_some h.2
  refine ⟨⟨hdevice, huser⟩, fun now httls => ?_⟩
  rw [HasTtls, deviceKey_congr hkeyPrefix, userKey_congr hkeyPrefix, hdevicettl, huserttl]
  exact httls

theorem Written.holds_inserted (hwritten : s.Written t now r) : t.Holds r := by
  rw [Holds, deviceKey_congr hwritten.keyPrefix, userKey_congr hwritten.keyPrefix,
    hwritten.value, hwritten.value, if_neg (deviceKey_ne_userKey _ _), if_pos rfl, if_pos rfl]
  exact ⟨rfl, rfl⟩

/-- After an insert a record is the inserted one, or it was there before with other keys. -/
theorem Written.holds (hwritten : s.Written t now r) (h : t.Holds q) :
    q = r ∨ s.Holds q ∧ ¬ s.IsKeyOf r (s.deviceKey q.deviceCode) ∧
      ¬ s.IsKeyOf r (s.userKey q.userCode) := by
  rw [Holds, deviceKey_congr hwritten.keyPrefix, userKey_congr hwritten.keyPrefix,
    hwritten.value, hwritten.value, if_neg (deviceKey_ne_userKey _ _)] at h
  obtain ⟨hdevice, huser⟩ := h
  by_cases hd : q.deviceCode = r.deviceCode
  · rw [if_pos (congrArg _ hd)] at hdevice
    exact .inl (DeviceRecord.encode_injective (Option.some.inj hdevice)).symm
  · have hdkey := mt (deviceKey_injective (s := s)) hd
    rw [if_neg hdkey] at hdevice
    -- Under the user code of the inserted record stands its own device code.
    have hu : q.userCode ≠ r.userCode := by
      intro hu
      rw [if_pos (congrArg _ hu)] at huser
      exact hd (Option.some.inj huser).symm
    have hukey := mt (userKey_injective (s := s)) hu
    rw [if_neg hukey, if_neg (Ne.symm (deviceKey_ne_userKey _ _))] at huser
    exact .inr ⟨⟨hdevice, huser⟩, not_or.2 ⟨hdkey, deviceKey_ne_userKey _ _⟩,
      not_or.2 ⟨Ne.symm (deviceKey_ne_userKey _ _), hukey⟩⟩

/-- Both keys of an inserted record get the seconds to live: neither had any before. -/
theorem Written.hasTtls (hwritten : s.Written t now r) (hfree : s.Free r)
    (habsent : ∀ key, s.service.get? key = none → s.service.ttls.get? key = none) :
    t.HasTtls now r := by
  have httl : ∀ key, s.IsKeyOf r key →
      t.service.ttls.get? key = (secondsToLive now r).toOption := by
    intro key hkey
    have hnone : s.service.ttls.get? key = none := by
      rcases hkey with rfl | rfl
      · exact habsent _ hfree.1
      · exact habsent _ hfree.2
    rw [hwritten.ttl, if_pos hkey, hnone, Option.or_none]
  rw [HasTtls, deviceKey_congr hwritten.keyPrefix, userKey_congr hwritten.keyPrefix]
  exact ⟨httl _ (.inl rfl), httl _ (.inr rfl)⟩

theorem dated_empty (keyPrefix : String) : (empty keyPrefix).Dated [] where
  held _ h := by cases h.1
  absent _ _ := rfl

theorem Dated.append {events : List SharedEvent} (h : s.Dated events) (e : SharedEvent) :
    s.Dated (events ++ [e]) := by
  rcases (s.after events).happen_cases e with
    ⟨now, r, rfl, hfree, hwritten⟩ | ⟨hkeyPrefix, hchange⟩
  · -- The inserted record is dated now; the keys of the others are not touched.
    rw [← after_append_singleton] at hwritten
    constructor
    · intro q hq
      rcases hwritten.holds hq with rfl | ⟨hbefore, hdevice, huser⟩
      · exact ⟨now, .inserted events hfree hq, hwritten.hasTtls hfree h.absent⟩
      · obtain ⟨since, hsince, httls⟩ := h.held q hbefore
        refine ⟨since, .kept events _ hsince hq, ?_⟩
        rw [HasTtls, deviceKey_congr hwritten.keyPrefix, userKey_congr hwritten.keyPrefix,
          hwritten.ttl, hwritten.ttl, if_neg hdevice, if_neg huser]
        exact httls
    · intro key hkey
      rw [hwritten.value] at hkey
      split at hkey
      · cases hkey
      · next huser =>
        split at hkey
        · cases hkey
        · next hdevice =>
          have hother : ¬ (s.after events).IsKeyOf r key := not_or.2 ⟨hdevice, huser⟩
          rw [hwritten.ttl, if_neg hother]
          exact h.absent key hkey
  · -- A key that is left has its value and its seconds from before.
    rw [← after_append_singleton] at hkeyPrefix hchange
    constructor
    · intro q hq
      obtain ⟨hbefore, httls⟩ := hq.of_change hkeyPrefix hchange
      obtain ⟨since, hsince, hdated⟩ := h.held q hbefore
      exact ⟨since, .kept events e hsince hq, httls since hdated⟩
    · intro key hkey
      cases hchange key with
      | gone value ttl => exact ttl
      | kept value ttl =>
        rw [ttl]
        exact h.absent key (value ▸ hkey)

/-! ## Runs -/

theorem keepsTables_after {keyPrefix : String} (hplain : (empty keyPrefix).PlainPrefix)
    (events : List SharedEvent) : ((empty keyPrefix).after events).KeepsTables := by
  induction events using List.reverseRecOn with
  | nil => exact ⟨.empty, MemoryStore.paired_empty, encodes_empty keyPrefix⟩
  | append_singleton events e ih =>
    rw [after_append_singleton]
    refine ih.happen ?_ e
    rw [PlainPrefix, keyPrefix_after]
    exact hplain

theorem dated_after (keyPrefix : String) (events : List SharedEvent) :
    (empty keyPrefix).Dated events := by
  induction events using List.reverseRecOn with
  | nil => exact dated_empty keyPrefix
  | append_singleton events e ih => exact ih.append e

theorem answer_of_failure {message : String} (h : s.service.failure = some message)
    (c : TimedCall) : s.answer c = (.error (.storeUnreachable message), s) := by
  obtain ⟨now, call⟩ := c
  cases call with
  | insert r =>
    simp only [answer, insertIfAbsent, h]
    rfl
  | delete code =>
    simp only [answer, delete, guarded_of_failure h]
    rfl
  | deleteExpired =>
    simp only [answer, deleteExpired, h]
    rfl
  | getByDeviceCode code =>
    simp only [answer, getByDeviceCode, guarded_of_failure h]
    rfl
  | getByUserCode code =>
    simp only [answer, getByUserCode, guarded_of_failure h]
    rfl

/-- In every run of a shared store from an empty one, with a plain prefix, whatever the clock shows
and whenever the service fails: every key is the key of a record both of whose keys are there; the
keys of device codes and of user codes are never the same; both keys of a record have the seconds
to live that were computed when it was inserted, or none if they could not be computed; seconds to
live are at least one, and at a whole reading they can always be computed; no seconds to live are
left of a key that is gone; and while the service fails, every call fails and changes nothing. -/
theorem keys_stay_paired (keyPrefix : String) (hplain : (empty keyPrefix).PlainPrefix)
    (events : List SharedEvent) :
    (∀ key, ((empty keyPrefix).after events).service.get? key ≠ none →
      ∃ r, ((empty keyPrefix).after events).Holds r ∧
        ((empty keyPrefix).after events).IsKeyOf r key) ∧
    (∀ d u, ((empty keyPrefix).after events).deviceKey d ≠
      ((empty keyPrefix).after events).userKey u) ∧
    (∀ r, ((empty keyPrefix).after events).Holds r → ∃ now,
      (empty keyPrefix).StandsSince now r events ∧
        ((empty keyPrefix).after events).HasTtls now r) ∧
    (∀ now r n, secondsToLive now r = .ok n → 1 ≤ n) ∧
    (∀ n r, secondsToLive (.whole n) r = .ok (max (r.expiresAt - n) 1)) ∧
    (∀ key, ((empty keyPrefix).after events).service.get? key = none →
      ((empty keyPrefix).after events).service.ttls.get? key = none) ∧
    ∀ message, ((empty keyPrefix).after events).service.failure = some message → ∀ c,
      ((empty keyPrefix).after events).answer c =
        (.error (.storeUnreachable message), (empty keyPrefix).after events) := by
  have hdated := dated_after keyPrefix events
  refine ⟨fun key hkey => (keepsTables_after hplain events).exists_holds hkey,
    deviceKey_ne_userKey, hdated.held, fun now r n => one_le_of_secondsToLive,
    secondsToLive_whole, hdated.absent, fun message hfailure c => answer_of_failure hfailure c⟩

/-- A delete while the service fails. -/
def outage : List SharedEvent :=
  [.call ⟨.whole 0, .insert (MemoryStore.sampleRecord "d" "u" 5)⟩, .outage (some "down"),
    .call ⟨.whole 1, .delete "d"⟩, .outage none]

/-- The record that could not be deleted stands with its five seconds. -/
theorem keys_stay_paired_outage :
    (empty "device_flow").PlainPrefix ∧
      ((empty "device_flow").after outage).Holds (MemoryStore.sampleRecord "d" "u" 5) ∧
      ∃ now, (empty "device_flow").StandsSince now (MemoryStore.sampleRecord "d" "u" 5) outage ∧
        ((empty "device_flow").after outage).HasTtls now (MemoryStore.sampleRecord "d" "u" 5) := by
  have hplain : (empty "device_flow").PlainPrefix := by decide
  have hheld : ((empty "device_flow").after outage).Holds (MemoryStore.sampleRecord "d" "u" 5) := by
    decide +kernel
  exact ⟨hplain, hheld, (keys_stay_paired "device_flow" hplain outage).2.2.1 _ hheld⟩

/-- At half past a second the insert of the distant record fails, and both of its keys stay without
seconds to live. -/
theorem keys_without_ttl :
    (empty "device_flow").PlainPrefix ∧
    ((empty "device_flow").answer ⟨half, .insert distant⟩).1 = .error .secondTooLarge ∧
    ((empty "device_flow").after [.call ⟨half, .insert distant⟩]).Holds distant ∧
    ((empty "device_flow").after [.call ⟨half, .insert distant⟩]).service.ttls.get?
      ((empty "device_flow").deviceKey distant.deviceCode) = none ∧
    ((empty "device_flow").after [.call ⟨half, .insert distant⟩]).service.ttls.get?
      ((empty "device_flow").userKey distant.userCode) = none := by
  have hfree : (empty "device_flow").Free distant := ⟨rfl, rfl⟩
  obtain ⟨hinsert, hwritten⟩ := insertIfAbsent_of_free half rfl hfree
  have httls := hwritten.hasTtls hfree fun _ _ => rfl
  rw [secondsToLive_distant] at hinsert
  rw [HasTtls, deviceKey_congr hwritten.keyPrefix, userKey_congr hwritten.keyPrefix,
    secondsToLive_distant] at httls
  rw [after_insert]
  refine ⟨by decide, ?_, ?_, httls.1, httls.2⟩
  · simp only [answer, hinsert]
    rfl
  · exact hwritten.holds_inserted

end SharedStore

end DeviceGrant
