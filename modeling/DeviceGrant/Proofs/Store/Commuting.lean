import DeviceGrant.Proofs.Issuing
import DeviceGrant.Proofs.Store.KeySpace
set_option autoImplicit false

/-! # Inserts of different codes commute

Records that share no code may be inserted in any order at one reading of the clock. An insert does
not change the answer to a record with other codes, so each of them gets the answer that it would
get alone (`transcript_inserts`). What the store holds afterwards is then told by which records are
inserted, and no longer by their order: the records that were accepted, and of the others those that
share no code with any of these (`get?_devices_inserts`).

In memory an expired record may hold the device code of one new record and the user code of another.
It goes with the first of the two that comes, through the one table or the other, and the second
finds it gone. In a shared store it blocks both. -/

namespace DeviceGrant

/-- Two records have a code of the same kind in common. -/
def DeviceRecord.SharesCode (q r : DeviceRecord) : Prop :=
  q.deviceCode = r.deviceCode ∨ q.userCode = r.userCode

instance (q r : DeviceRecord) : Decidable (q.SharesCode r) :=
  inferInstanceAs (Decidable (_ ∨ _))

/-- No two records share a code. -/
def Independent (rs : List DeviceRecord) : Prop := rs.Pairwise fun q r => ¬ q.SharesCode r

instance (rs : List DeviceRecord) : Decidable (Independent rs) :=
  inferInstanceAs (Decidable (rs.Pairwise _))

/-- Inserts at one reading of the clock. -/
def inserts (now : Instant) (rs : List DeviceRecord) : List TimedCall :=
  rs.map fun r => ⟨now, .insert r⟩

variable {now : Instant} {r q : DeviceRecord} {rs rs' : List DeviceRecord}

theorem DeviceRecord.SharesCode.symm (h : q.SharesCode r) : r.SharesCode q :=
  h.imp Eq.symm Eq.symm

theorem Independent.perm (h : Independent rs) (hperm : rs'.Perm rs) : Independent rs' :=
  (hperm.pairwise_iff fun hne hshares => hne hshares.symm).2 h

/-! ## The store in memory -/

namespace MemoryStore

variable {s t : MemoryStore} {code : String}

/-- The same records under the same codes, in whatever order. -/
structure SameContents (s t : MemoryStore) : Prop where
  devices : ∀ code, t.devices.get? code = s.devices.get? code
  users : ∀ u, t.users.get? u = s.users.get? u

/-- A record that is accepted joins those with which it shares no code, and one that is refused
changes nothing. -/
theorem Paired.get?_devices_insertIfAbsent_iff (h : s.Paired) :
    (s.insertIfAbsent now r).2.devices.get? code = some q ↔
      (s.holdsLive now r = false ∧ q = r) ∧ q.deviceCode = code ∨
      s.devices.get? code = some q ∧ (s.holdsLive now r = false → ¬ q.SharesCode r) := by
  cases hlive : s.holdsLive now r with
  | true =>
    rw [insertIfAbsent_of_holdsLive hlive]
    simp
  | false =>
    rw [insertIfAbsent_of_free hlive, h.get?_devices_reclaim_put_iff]
    refine or_congr ?_ (and_congr_right fun hq => ?_)
    · constructor
      · rintro ⟨rfl, rfl⟩
        exact ⟨⟨rfl, rfl⟩, rfl⟩
      · rintro ⟨⟨_, rfl⟩, rfl⟩
        exact ⟨rfl, rfl⟩
    · simp [DeviceRecord.SharesCode, (h.device code q hq).1]

/-- An insert does not change the answer to a record with other codes: what it adds does not stand
in that record's way, and what it takes away has expired. -/
theorem Paired.holdsLive_insertIfAbsent (h : s.Paired) (hqr : ¬ r.SharesCode q) :
    (s.insertIfAbsent now r).2.holdsLive now q = s.holdsLive now q := by
  have hiff : (s.insertIfAbsent now r).2.IsFree now q.deviceCode q.userCode ↔
      s.IsFree now q.deviceCode q.userCode := by
    simp only [IsFree, h.get?_devices_insertIfAbsent_iff]
    constructor
    · intro hall code x hx hxlive
      refine hall code x (.inr ⟨hx, fun hfree => ?_⟩) hxlive
      exact not_or.2 (h.holdsLive_eq_false_iff.1 hfree code x hx hxlive)
    · rintro hall code x (⟨⟨_, rfl⟩, _⟩ | ⟨hx, _⟩) hxlive
      · exact not_or.1 hqr
      · exact hall code x hx hxlive
  rw [← h.holdsLive_eq_false_iff, ← (h.insertIfAbsent now r).holdsLive_eq_false_iff] at hiff
  cases hq : s.holdsLive now q with
  | false => exact hiff.2 hq
  | true => simpa [hq] using hiff

theorem answer_insert (s : MemoryStore) (now : Instant) (r : DeviceRecord) :
    s.answer ⟨now, .insert r⟩ = (.stored (!s.holdsLive now r), (s.insertIfAbsent now r).2) := by
  cases hlive : s.holdsLive now r <;> simp [answer, insertIfAbsent, hlive]

/-- A record meets the store that earlier ones leave as if it came first. -/
theorem Paired.transcript_inserts (h : s.Paired) (hrs : Independent rs) :
    s.transcript (inserts now rs) = (inserts now rs).map fun c => (c, (s.answer c).1) := by
  induction rs generalizing s with
  | nil => rfl
  | cons r rs ih =>
    obtain ⟨hr, hrs⟩ := List.pairwise_cons.1 hrs
    change _ :: (s.insertIfAbsent now r).2.transcript (inserts now rs) = _ :: _
    rw [ih (h.insertIfAbsent now r) hrs]
    refine congrArg _ (List.map_congr_left fun c hc => ?_)
    obtain ⟨q, hq, rfl⟩ := List.mem_map.1 hc
    rw [answer_insert, answer_insert, h.holdsLive_insertIfAbsent (hr q hq)]

/-- Afterwards the store holds the records that were accepted, and those from before that share no
code with any of them. -/
theorem Paired.get?_devices_inserts (h : s.Paired) (hrs : Independent rs) :
    (s.run (inserts now rs)).devices.get? code = some q ↔
      (q ∈ rs ∧ s.holdsLive now q = false) ∧ q.deviceCode = code ∨
      s.devices.get? code = some q ∧
        ∀ r ∈ rs, s.holdsLive now r = false → ¬ q.SharesCode r := by
  induction rs generalizing s with
  | nil => simp [inserts, MemoryStore.run]
  | cons r rs ih =>
    obtain ⟨hr, hrs⟩ := List.pairwise_cons.1 hrs
    have hlater : ∀ x ∈ rs, (s.insertIfAbsent now r).2.holdsLive now x = s.holdsLive now x :=
      fun x hx => h.holdsLive_insertIfAbsent (hr x hx)
    have hrest : (s.run (inserts now (r :: rs))).devices.get? code = some q ↔
        (q ∈ rs ∧ s.holdsLive now q = false) ∧ q.deviceCode = code ∨
        (s.insertIfAbsent now r).2.devices.get? code = some q ∧
          ∀ x ∈ rs, s.holdsLive now x = false → ¬ q.SharesCode x := by
      refine (ih (h.insertIfAbsent now r) hrs).trans (or_congr ?_ ?_)
      · exact and_congr_left' (and_congr_right fun hq => by rw [hlater q hq])
      · exact and_congr_right' (forall₂_congr fun x hx => by rw [hlater x hx])
    rw [hrest, h.get?_devices_insertIfAbsent_iff, List.forall_mem_cons]
    constructor
    · rintro (⟨⟨hq, hfree⟩, hcode⟩ | ⟨⟨⟨hfree, rfl⟩, hcode⟩ | ⟨hq, hfirst⟩, hkept⟩)
      · exact .inl ⟨⟨List.mem_cons_of_mem r hq, hfree⟩, hcode⟩
      · exact .inl ⟨⟨List.mem_cons_self, hfree⟩, hcode⟩
      · exact .inr ⟨hq, hfirst, hkept⟩
    · rintro (⟨⟨hq, hfree⟩, hcode⟩ | ⟨hq, hfirst, hkept⟩)
      · rcases List.mem_cons.1 hq with rfl | hq
        · -- No later record displaces the first one.
          exact .inr ⟨.inl ⟨⟨hfree, rfl⟩, hcode⟩, fun x hx _ => hr x hx⟩
        · exact .inl ⟨⟨hq, hfree⟩, hcode⟩
      · exact .inr ⟨.inr ⟨hq, hfirst⟩, hkept⟩

theorem Paired.sameContents_inserts (h : s.Paired) (hrs : Independent rs) (hperm : rs'.Perm rs) :
    (s.run (inserts now rs)).SameContents (s.run (inserts now rs')) := by
  have hdevices : ∀ code, (s.run (inserts now rs')).devices.get? code =
      (s.run (inserts now rs)).devices.get? code := by
    intro code
    refine Option.ext fun q => ?_
    simp only [h.get?_devices_inserts hrs, h.get?_devices_inserts (hrs.perm hperm), hperm.mem_iff]
  exact ⟨hdevices, (h.run _).get?_users_eq (h.run _) hdevices⟩

end MemoryStore

/-! ## The shared store -/

namespace SharedStore

variable {s t : SharedStore} {key text : String} {n : Int}

/-- The same keys with the same values and the same seconds to live, in whatever order. -/
structure SameContents (s t : SharedStore) : Prop where
  keyPrefix : t.keyPrefix = s.keyPrefix
  failure : t.service.failure = s.service.failure
  values : ∀ key, t.service.get? key = s.service.get? key
  ttls : ∀ key, t.service.ttls.get? key = s.service.ttls.get? key

theorem SameContents.refl (s : SharedStore) : s.SameContents s :=
  ⟨rfl, rfl, fun _ => rfl, fun _ => rfl⟩

/-- Only records that share a code have a key in common. -/
theorem IsKeyOf.sharesCode (hr : s.IsKeyOf r key) (hq : s.IsKeyOf q key) : r.SharesCode q := by
  rcases hr with rfl | rfl
  · exact .inl (deviceKey_injective (hq.resolve_right (deviceKey_ne_userKey _ _)))
  · exact .inr (userKey_injective (hq.resolve_left (Ne.symm (deviceKey_ne_userKey _ _))))

theorem isKeyOf_congr (h : t.keyPrefix = s.keyPrefix) : t.IsKeyOf r key ↔ s.IsKeyOf r key := by
  rw [IsKeyOf, IsKeyOf, deviceKey_congr h, userKey_congr h]

theorem keysOf_congr (h : t.keyPrefix = s.keyPrefix) (r : DeviceRecord) :
    t.keysOf r = s.keysOf r := by
  rw [keysOf, keysOf, deviceKey_congr h, userKey_congr h]

/-! ### One insert -/

theorem keyPrefix_insertIfAbsent (s : SharedStore) (now : Instant) (r : DeviceRecord) :
    (s.insertIfAbsent now r).2.keyPrefix = s.keyPrefix := by
  rcases s.insertIfAbsent_cases now r with hsame | ⟨_, hwritten⟩
  · rw [hsame]
  · exact hwritten.keyPrefix

theorem failure_insertIfAbsent (hup : s.service.failure = none) (now : Instant)
    (r : DeviceRecord) : (s.insertIfAbsent now r).2.service.failure = none := by
  rcases s.insertIfAbsent_cases now r with hsame | ⟨_, hwritten⟩
  · rw [hsame, hup]
  · exact hwritten.failure

/-- The values of the keys after an insert. -/
theorem get?_insertIfAbsent_iff (hup : s.service.failure = none) :
    (s.insertIfAbsent now r).2.service.get? key = some text ↔
      s.Free r ∧ (key, text) ∈ s.keysOf r ∨ s.service.get? key = some text := by
  by_cases hfree : s.Free r
  · rw [(insertIfAbsent_of_free now hup hfree).2.value, and_iff_right hfree, keysOf]
    have hne : s.userKey r.userCode ≠ s.deviceKey r.deviceCode := Ne.symm (deviceKey_ne_userKey _ _)
    by_cases huser : key = s.userKey r.userCode
    · rw [huser, if_pos rfl, hfree.2, eq_comm]
      simp [hne]
    · rw [if_neg huser]
      by_cases hdevice : key = s.deviceKey r.deviceCode
      · rw [hdevice, if_pos rfl, hfree.1, eq_comm]
        simp [hne.symm]
      · simp [huser, hdevice]
  · rw [(insertIfAbsent_of_not_free now hup hfree).2]
    simp [hfree]

/-- The seconds to live after an insert: those of its own keys are replaced, where new ones can be
computed. -/
theorem ttl_insertIfAbsent_iff (hup : s.service.failure = none) :
    (s.insertIfAbsent now r).2.service.ttls.get? key = some n ↔
      s.Free r ∧ s.IsKeyOf r key ∧ secondsToLive now r = .ok n ∨
      s.service.ttls.get? key = some n ∧
        (s.Free r → s.IsKeyOf r key → ∀ m, secondsToLive now r ≠ .ok m) := by
  by_cases hfree : s.Free r
  · rw [(insertIfAbsent_of_free now hup hfree).2.ttl]
    by_cases hkey : s.IsKeyOf r key
    · rw [if_pos hkey]
      cases secondsToLive now r with
      | error f => simp [Except.toOption]
      | ok m => simp [Except.toOption, hfree, hkey]
    · simp [hkey]
  · rw [(insertIfAbsent_of_not_free now hup hfree).2]
    simp [hfree]

/-- An insert does not free the keys of a record with other codes, nor take them. -/
theorem free_insertIfAbsent (hqr : ¬ r.SharesCode q) :
    (s.insertIfAbsent now r).2.Free q ↔ s.Free q := by
  rcases s.insertIfAbsent_cases now r with hsame | ⟨_, hwritten⟩
  · rw [hsame]
  · have hother : ∀ key, s.IsKeyOf q key →
        (s.insertIfAbsent now r).2.service.get? key = s.service.get? key := by
      intro key hkey
      have hnot : ¬ s.IsKeyOf r key := fun hr => hqr (hr.sharesCode hkey)
      rw [hwritten.value, if_neg (not_or.1 hnot).2, if_neg (not_or.1 hnot).1]
    rw [Free, Free, deviceKey_congr hwritten.keyPrefix, userKey_congr hwritten.keyPrefix,
      hother _ (.inl rfl), hother _ (.inr rfl)]

/-- Whether the keys are free decides what an insert answers. -/
theorem answer_insert_congr (hs : s.service.failure = none) (ht : t.service.failure = none)
    (hfree : t.Free r ↔ s.Free r) :
    (t.answer ⟨now, .insert r⟩).1 = (s.answer ⟨now, .insert r⟩).1 := by
  simp only [answer]
  by_cases h : s.Free r
  · rw [(insertIfAbsent_of_free now hs h).1, (insertIfAbsent_of_free now ht (hfree.2 h)).1]
  · rw [(insertIfAbsent_of_not_free now hs h).1,
      (insertIfAbsent_of_not_free now ht (mt hfree.1 h)).1]

/-! ### All inserts -/

theorem transcript_of_failure {message : String} (h : s.service.failure = some message)
    (calls : List TimedCall) : s.transcript calls = calls.map fun c => (c, (s.answer c).1) := by
  induction calls with
  | nil => rfl
  | cons c calls ih => rw [transcript, answer_of_failure h, ih, List.map_cons, answer_of_failure h]

theorem run_of_failure {message : String} (h : s.service.failure = some message)
    (calls : List TimedCall) : s.run calls = s := by
  induction calls with
  | nil => rfl
  | cons c calls ih =>
    change (s.answer c).2.run calls = s
    rw [answer_of_failure h, ih]

/-- A record meets the store that earlier ones leave as if it came first. -/
theorem transcript_inserts (s : SharedStore) (now : Instant) (hrs : Independent rs) :
    s.transcript (inserts now rs) = (inserts now rs).map fun c => (c, (s.answer c).1) := by
  cases hup : s.service.failure with
  | some message => exact transcript_of_failure hup _
  | none =>
    induction rs generalizing s with
    | nil => rfl
    | cons r rs ih =>
      obtain ⟨hr, hrs⟩ := List.pairwise_cons.1 hrs
      have hup' := failure_insertIfAbsent hup now r
      change _ :: (s.insertIfAbsent now r).2.transcript (inserts now rs) = _ :: _
      rw [ih _ hrs hup']
      refine congrArg _ (List.map_congr_left fun c hc => ?_)
      obtain ⟨q, hq, rfl⟩ := List.mem_map.1 hc
      rw [answer_insert_congr hup hup' (free_insertIfAbsent (hr q hq))]

theorem keyPrefix_inserts (s : SharedStore) (now : Instant) (rs : List DeviceRecord) :
    (s.run (inserts now rs)).keyPrefix = s.keyPrefix := by
  induction rs generalizing s with
  | nil => rfl
  | cons r rs ih => exact (ih _).trans (s.keyPrefix_insertIfAbsent now r)

theorem failure_inserts (hup : s.service.failure = none) (now : Instant)
    (rs : List DeviceRecord) : (s.run (inserts now rs)).service.failure = none := by
  induction rs generalizing s with
  | nil => exact hup
  | cons r rs ih => exact ih (failure_insertIfAbsent hup now r)

/-- Afterwards there are the keys from before, and those of the records whose keys were free. -/
theorem get?_inserts (hup : s.service.failure = none) (hrs : Independent rs) :
    (s.run (inserts now rs)).service.get? key = some text ↔
      (∃ q ∈ rs, s.Free q ∧ (key, text) ∈ s.keysOf q) ∨ s.service.get? key = some text := by
  induction rs generalizing s with
  | nil => simp [inserts, run]
  | cons r rs ih =>
    obtain ⟨hr, hrs⟩ := List.pairwise_cons.1 hrs
    have hrest : (s.run (inserts now (r :: rs))).service.get? key = some text ↔
        (∃ q ∈ rs, s.Free q ∧ (key, text) ∈ s.keysOf q) ∨
          (s.insertIfAbsent now r).2.service.get? key = some text := by
      refine (ih (failure_insertIfAbsent hup now r) hrs).trans (or_congr_left ?_)
      refine exists_congr fun q => and_congr_right fun hq => ?_
      rw [free_insertIfAbsent (hr q hq), keysOf_congr (s.keyPrefix_insertIfAbsent now r)]
    rw [hrest, get?_insertIfAbsent_iff hup, List.exists_mem_cons_iff, or_left_comm, or_assoc]

/-- Afterwards the keys of these records have the seconds to live that were computed for them, and
all other keys, and keys for which none could be computed, have those from before. -/
theorem ttl_inserts (hup : s.service.failure = none) (hrs : Independent rs) :
    (s.run (inserts now rs)).service.ttls.get? key = some n ↔
      (∃ q ∈ rs, s.Free q ∧ s.IsKeyOf q key ∧ secondsToLive now q = .ok n) ∨
      s.service.ttls.get? key = some n ∧
        ∀ q ∈ rs, s.Free q → s.IsKeyOf q key → ∀ m, secondsToLive now q ≠ .ok m := by
  induction rs generalizing s with
  | nil => simp [inserts, run]
  | cons r rs ih =>
    obtain ⟨hr, hrs⟩ := List.pairwise_cons.1 hrs
    have hkeys : ∀ q, (s.insertIfAbsent now r).2.IsKeyOf q key ↔ s.IsKeyOf q key :=
      fun q => isKeyOf_congr (s.keyPrefix_insertIfAbsent now r)
    have hrest : (s.run (inserts now (r :: rs))).service.ttls.get? key = some n ↔
        (∃ q ∈ rs, s.Free q ∧ s.IsKeyOf q key ∧ secondsToLive now q = .ok n) ∨
        (s.insertIfAbsent now r).2.service.ttls.get? key = some n ∧
          ∀ q ∈ rs, s.Free q → s.IsKeyOf q key → ∀ m, secondsToLive now q ≠ .ok m := by
      refine (ih (failure_insertIfAbsent hup now r) hrs).trans (or_congr ?_ ?_)
      · refine exists_congr fun q => and_congr_right fun hq => ?_
        rw [free_insertIfAbsent (hr q hq), hkeys]
      · refine and_congr_right' (forall₂_congr fun q hq => ?_)
        rw [free_insertIfAbsent (hr q hq), hkeys]
    rw [hrest, ttl_insertIfAbsent_iff hup, List.exists_mem_cons_iff, List.forall_mem_cons]
    constructor
    · rintro (hlater | ⟨hfirst | ⟨httl, hfirst⟩, hlater⟩)
      · exact .inl (.inr hlater)
      · exact .inl (.inl hfirst)
      · exact .inr ⟨httl, hfirst, hlater⟩
    · rintro ((⟨hfree, hkey, httl⟩ | hlater) | ⟨httl, hfirst, hlater⟩)
      · -- A key of the first record is no key of a later one.
        refine .inr ⟨.inl ⟨hfree, hkey, httl⟩, fun q hq _ hother => ?_⟩
        exact absurd (hkey.sharesCode hother) (hr q hq)
      · exact .inl hlater
      · exact .inr ⟨.inr ⟨httl, hfirst⟩, hlater⟩

theorem sameContents_inserts (s : SharedStore) (now : Instant) (hrs : Independent rs)
    (hperm : rs'.Perm rs) :
    (s.run (inserts now rs)).SameContents (s.run (inserts now rs')) := by
  cases hup : s.service.failure with
  | some message =>
    rw [run_of_failure hup, run_of_failure hup]
    exact .refl s
  | none =>
    have hrs' := hrs.perm hperm
    constructor
    · rw [keyPrefix_inserts, keyPrefix_inserts]
    · rw [failure_inserts hup, failure_inserts hup]
    · intro key
      refine Option.ext fun text => ?_
      simp only [get?_inserts hup hrs, get?_inserts hup hrs', hperm.mem_iff]
    · intro key
      refine Option.ext fun n => ?_
      simp only [ttl_inserts hup hrs, ttl_inserts hup hrs', hperm.mem_iff]

end SharedStore

/-! ## Both stores -/

/-- Inserts of records with different codes commute. For every store in memory that can come about,
every shared store whatever its keys, every reading of the clock and all records no two of which
share a code: in any order, each record gets the answer that the store gives before all of them, so
the answers are the same up to order, and the contents afterwards are the same. -/
theorem independent_inserts_commute (now : Instant) (rs rs' : List DeviceRecord)
    (hrs : Independent rs) (hperm : rs'.Perm rs) :
    (∀ calls, let s := MemoryStore.empty.run calls
      s.transcript (inserts now rs') = (inserts now rs').map (fun c => (c, (s.answer c).1)) ∧
      (s.transcript (inserts now rs')).Perm (s.transcript (inserts now rs)) ∧
      (s.run (inserts now rs)).SameContents (s.run (inserts now rs'))) ∧
    ∀ s : SharedStore,
      s.transcript (inserts now rs') = (inserts now rs').map (fun c => (c, (s.answer c).1)) ∧
      (s.transcript (inserts now rs')).Perm (s.transcript (inserts now rs)) ∧
      (s.run (inserts now rs)).SameContents (s.run (inserts now rs')) := by
  have hrs' := hrs.perm hperm
  have hcalls : (inserts now rs').Perm (inserts now rs) := hperm.map _
  constructor
  · intro calls s
    have hs : s.Paired := MemoryStore.paired_empty.run calls
    refine ⟨hs.transcript_inserts hrs', ?_, hs.sameContents_inserts hrs hperm⟩
    rw [hs.transcript_inserts hrs, hs.transcript_inserts hrs']
    exact hcalls.map _
  · intro s
    refine ⟨s.transcript_inserts now hrs', ?_, s.sameContents_inserts now hrs hperm⟩
    rw [s.transcript_inserts now hrs, s.transcript_inserts now hrs']
    exact hcalls.map _

/-- The insert of a record that has expired at ten seconds. -/
def expiredInsert : List TimedCall :=
  [⟨.whole 0, .insert (MemoryStore.sampleRecord "d1" "u1" 5)⟩]

/-- Two records each of which has one code of the expired record. -/
def crossing : List DeviceRecord :=
  [MemoryStore.sampleRecord "d1" "u2" 20, MemoryStore.sampleRecord "d2" "u1" 20]

/-- In either order both records take over from the expired one in memory, and both are refused by
the shared store, which still has its keys. -/
theorem independent_inserts_commute_crossing :
    let m := MemoryStore.empty.run expiredInsert
    let s := (SharedStore.empty "device_flow").run expiredInsert
    Independent crossing ∧ crossing.reverse.Perm crossing ∧
      (m.run (inserts (.whole 10) crossing)).SameContents
        (m.run (inserts (.whole 10) crossing.reverse)) ∧
      (∀ e ∈ m.transcript (inserts (.whole 10) crossing.reverse), e.2 = .stored true) ∧
      (s.run (inserts (.whole 10) crossing)).SameContents
        (s.run (inserts (.whole 10) crossing.reverse)) ∧
      ∀ e ∈ s.transcript (inserts (.whole 10) crossing.reverse), e.2 = .ok (.stored false) := by
  intro m s
  have hrs : Independent crossing := by decide
  have hperm : crossing.reverse.Perm crossing := List.reverse_perm _
  obtain ⟨hmemory, hshared⟩ := independent_inserts_commute (.whole 10) crossing _ hrs hperm
  refine ⟨hrs, hperm, (hmemory expiredInsert).2.2, ?_, (hshared s).2.2, ?_⟩
  · rw [(hmemory expiredInsert).1]
    decide
  · rw [(hshared s).1]
    decide

end DeviceGrant
