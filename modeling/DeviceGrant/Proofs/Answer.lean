import DeviceGrant.Deployment
import DeviceGrant.Proofs.Lifetime
import DeviceGrant.Proofs.Override
import DeviceGrant.Proofs.Settings
set_option autoImplicit false

/-! # An answer and the record behind it

The parts of an answer come from different places: the codes from the issuing loop, the lifetime
from the settings, the interval from the settings or the client. The record is stored in between,
with times counted from the whole second of the clock. All of them describe one record, which is
found under both codes at the very reading of the issue, and the store is otherwise what it was up
to expired records of the same codes (`answer_describes_record`). -/

namespace DeviceGrant

namespace MemoryStore

variable {m : MemoryStore} {now : Instant} {r : DeviceRecord}

/-- A store is another one and a new record, without the records that stood in its way; those had
expired. -/
structure Adds (m : MemoryStore) (now : Instant) (r : DeviceRecord) (m' : MemoryStore) : Prop where
  devices : ∀ code q, m'.devices.get? code = some q ↔ code = r.deviceCode ∧ q = r ∨
    m.devices.get? code = some q ∧ code ≠ r.deviceCode ∧ q.userCode ≠ r.userCode
  users : ∀ u code, m'.users.get? u = some code ↔ u = r.userCode ∧ code = r.deviceCode ∨
    m.users.get? u = some code ∧ u ≠ r.userCode ∧ code ≠ r.deviceCode
  new : ∀ code, m.devices.get? code ≠ some r
  displaced : ∀ code q, m.devices.get? code = some q →
    code = r.deviceCode ∨ q.userCode = r.userCode → q.isExpired now = true

/-- Storing a live record of free codes adds it. -/
theorem Paired.adds (hm : m.Paired) (hfree : m.holdsLive now r = false)
    (hlive : r.isLive now = true) : m.Adds now r ((m.reclaim r).put r) where
  devices code q := hm.get?_devices_reclaim_put_iff r q code
  users u code := by
    rw [MemoryStore.put, Table.get?_put, hm.get?_users_reclaim]
    by_cases hu : u = r.userCode
    · simp [hu, eq_comm]
    · -- A user code that led to a displaced record goes with it, whatever it is.
      by_cases hleads : m.users.get? u = some code
      · by_cases hcode : code = r.deviceCode <;> simp [hu, hleads, hcode]
      · simp [hu, hleads]
  new code hheld := by
    have hfound := getByDeviceCode_eq_some.2 ⟨hheld, hlive⟩
    rw [← (hm.device code r hheld).1, (holdsLive_eq_false.1 hfree).1] at hfound
    cases hfound
  displaced code q hq htaken := by
    by_contra hexpired
    have hqlive : q.isLive now = true := by simpa [DeviceRecord.isLive] using hexpired
    obtain ⟨hdevice, huser⟩ := hm.holdsLive_eq_false_iff.1 hfree code q hq hqlive
    rw [(hm.device code q hq).1] at hdevice
    exact htaken.elim hdevice huser

end MemoryStore

/-- A record is live when it is issued: its lifetime counts from a second that the clock has not
left behind by a whole one. -/
theorem Issuer.isLive_of_newRecord {i : Issuer} {codes : CodeSource} {now : Instant}
    {request : AuthorizationRequest} {k : Nat} {r : DeviceRecord} (hpos : 0 < i.expirySeconds)
    (h : i.newRecord codes now request k = .ok r) : r.isLive now = true := by
  obtain ⟨second, hsecond, rfl⟩ := newRecord_eq_ok_iff.1 h
  simp [DeviceRecord.isLive, DeviceRecord.isExpired, Instant.isAfter_of_truncate hsecond hpos]

namespace Service

/-- An answer describes the record that its authorization stored. For all accepted settings and
over every store in memory that can come about: the store is the one before with one record added
and at most expired holders of its codes gone, both codes of the answer lead to that record at the
reading of the issue, its request is the one that was validated, and its lifetime is the one that
the answer tells and the settings give. The interval is at least one second, and as JSON the answer
has these five fields. -/
theorem answer_describes_record (values : List (Value × Value)) (env : List (String × String))
    (file : Option String) (settings : Settings) (codes : CodeSource) (registry : Registry)
    (past : List TimedCall) (drawn : Nat) (now : Instant) (parameters : Table String)
    (principal : Option Principal) (context : RequestContext) (a : DeviceResponse)
    (hsettings : Settings.load values env file = .ok settings)
    (hanswer : ((Service.forSettings settings codes).authorize now parameters principal context
      ⟨registry, .memory (MemoryStore.empty.run past), drawn⟩).1.value = .ok a) :
    let after := ((Service.forSettings settings codes).authorize now parameters principal context
      ⟨registry, .memory (MemoryStore.empty.run past), drawn⟩).2.issuance.store
    ∃ r m' client, after = .memory m' ∧ (MemoryStore.empty.run past).Adds now r m' ∧
      after.getByDeviceCode now a.deviceCode = .ok (some r) ∧
      after.getByUserCode now a.userCode = .ok (some r) ∧
      (registry.validate parameters principal).1.value = .ok (r.request, client) ∧
      a.expiresIn = r.expiresAt - r.issuedAt ∧ a.expiresIn = settings.expirySeconds ∧
      1 ≤ a.interval ∧
      a.toJson = .object [("device_code", .text r.deviceCode), ("user_code", .text r.userCode),
        ("verification_uri", .text a.verificationUri), ("interval", .int a.interval),
        ("expires_in", .int (r.expiresAt - r.issuedAt))] := by
  intro after
  have hm : (MemoryStore.empty.run past).Paired := MemoryStore.paired_empty.run past
  have hcounts := Settings.countsPositive_of_load hsettings
  obtain ⟨request, client, k, r, hvalid, hk, hbuild, hafter⟩ :=
    exists_issues_of_answer _ now context hanswer
  obtain ⟨uri, interval, huri, hinterval, rfl⟩ := DeviceResponse.build_eq_ok_iff.1 hbuild
  have hlive : r.isLive now = true := Issuer.isLive_of_newRecord hcounts.expirySeconds hk.record
  have hpositive : 0 < interval := Override.interval_pos hcounts.pollInterval hinterval
  have hbydevice := MemoryStore.getByDeviceCode_reclaim_put (MemoryStore.empty.run past) hlive
  have hbyuser := (hm.reclaim_put r).getByUserCode_iff.2 ⟨hbydevice, rfl⟩
  -- The record expires so long after the second that it was issued at, places cut off or not.
  have hrequest : r.request = request ∧ r.expiresAt - r.issuedAt = settings.expirySeconds := by
    obtain ⟨second, _, rfl⟩ := Issuer.newRecord_eq_ok_iff.1 hk.record
    exact ⟨rfl, add_sub_cancel_left ..⟩
  obtain ⟨rfl, hlifetime⟩ := hrequest
  refine ⟨r, _, client, hafter, hm.adds hk.free hlive, ?_, ?_, hvalid, hlifetime.symm, rfl,
    hpositive, ?_⟩
  · rw [show after = _ from hafter]
    exact congrArg Except.ok hbydevice
  · rw [show after = _ from hafter]
    exact congrArg Except.ok hbyuser
  · rw [hlifetime]
    rfl

/-- With nothing set, the app that is issued a pair half a second after a whole one has an answer
for the record that displaced the expired one. -/
theorem answer_describes_record_halfPast :
    Settings.load [] [] none = .ok .defaults ∧ appIssue.1.value = .ok tenMinutesAnswer ∧
    ∃ r m', appIssue.2.issuance.store = .memory m' ∧
      (MemoryStore.empty.run takenLongAgo).Adds (halfPast 1000) r m' ∧
      appIssue.2.issuance.store.getByDeviceCode (halfPast 1000) "d" = .ok (some r) ∧
      appIssue.2.issuance.store.getByUserCode (halfPast 1000) "u" = .ok (some r) ∧
      r.expiresAt - r.issuedAt = 600 := by
  obtain ⟨r, m', _, hstore, hadds, hbydevice, hbyuser, _, hlifetime, _⟩ :=
    answer_describes_record [] [] none .defaults onePair.codes .twoApps takenLongAgo 0
      (halfPast 1000) appParameters (some (.client "device-app-1" true)) atHost tenMinutesAnswer
      Settings.load_nothing appIssue_value
  exact ⟨Settings.load_nothing, appIssue_value, r, m', hstore, hadds, hbydevice, hbyuser,
    hlifetime.symm⟩

end Service

end DeviceGrant
