import DeviceGrant.Proofs.Clock
import DeviceGrant.Proofs.Store.Run
import Mathlib.Data.List.Induction
import Mathlib.Data.List.Perm.Subperm
set_option autoImplicit false

/-! # The store in memory against its history

The abstract store is a list: the records whose insert succeeded and whose device code was not
deleted since. It knows neither the two tables nor which expired records are still held, and a
sweep does not change it. `History.IsAnswer` says which answers it calls for.

`MemoryStore.Remembers` relates a store to its history: whatever the store holds is remembered,
and whatever is remembered and live is held. An insert may reclaim, and a sweep or a late delete
remove, expired records only, so every call keeps the relation (`Remembers.answer`), and with it
`answers_follow_history` reads every answer off the history. -/

namespace DeviceGrant

/-- Records that were stored and not deleted since. -/
abbrev History := List DeviceRecord

namespace History

/-- A history after a call with its answer. -/
def remember (h : History) : StoreCall → StoreAnswer → History
  | .insert r, .stored true => h ++ [r]
  | .delete code, _ => h.filter fun q => q.deviceCode ≠ code
  | _, _ => h

/-- The history that a transcript leaves. -/
def ofTranscript (t : Transcript) : History :=
  t.foldl (fun h e => h.remember e.1.call e.2) []

/-- Whether an answer is one that a history calls for. Look-ups and inserts have one answer. The
answer to a delete and the number of swept records depend on which expired records are still held:
a live record is always there to be deleted, and only remembered records are removed. -/
def IsAnswer (h : History) (now : Instant) : StoreCall → StoreAnswer → Prop
  | .insert r, .stored b =>
    b = true ↔ ∀ q ∈ h, now ≤ .whole q.expiresAt →
      q.deviceCode ≠ r.deviceCode ∧ q.userCode ≠ r.userCode
  | .delete code, .deleted b =>
    (b = true → ∃ q ∈ h, q.deviceCode = code) ∧
      ((∃ q ∈ h, q.deviceCode = code ∧ now ≤ .whole q.expiresAt) → b = true)
  | .deleteExpired, .swept n => n ≤ h.countP (·.isExpired now)
  | .getByDeviceCode code, .found a =>
    ∀ r, a = some r ↔ r ∈ h ∧ r.deviceCode = code ∧ now ≤ .whole r.expiresAt
  | .getByUserCode code, .found a =>
    ∀ r, a = some r ↔ r ∈ h ∧ r.userCode = code ∧ now ≤ .whole r.expiresAt
  | _, _ => False

theorem ofTranscript_append_singleton (t : Transcript) (c : TimedCall) (a : StoreAnswer) :
    ofTranscript (t ++ [(c, a)]) = (ofTranscript t).remember c.call a := by
  simp [ofTranscript]

/-- Only a delete makes a history forget. -/
theorem mem_remember {h : History} {r : DeviceRecord} {call : StoreCall} (hr : r ∈ h)
    (hcall : ∀ code, call ≠ .delete code) (a : StoreAnswer) : r ∈ h.remember call a := by
  unfold remember
  split
  · exact List.mem_append_left _ hr
  · exact absurd rfl (hcall _)
  · exact hr

end History

/-- Whether a call removes records: its answer may depend on earlier sweeps. -/
def StoreCall.isRemoval : StoreCall → Bool
  | .delete _ => true
  | .deleteExpired => true
  | _ => false

/-- Look-ups and inserts have at most one answer. -/
theorem History.IsAnswer.unique {h : History} {now : Instant} {call : StoreCall}
    {a b : StoreAnswer} (hcall : call.isRemoval = false) (ha : h.IsAnswer now call a)
    (hb : h.IsAnswer now call b) : a = b := by
  cases call with
  | insert r =>
    cases a <;> cases b <;> simp only [IsAnswer] at ha hb
    next x y => rw [StoreAnswer.stored.injEq, Bool.eq_iff_iff, ha, hb]
  | delete code => simp [StoreCall.isRemoval] at hcall
  | deleteExpired => simp [StoreCall.isRemoval] at hcall
  | getByDeviceCode code =>
    cases a <;> cases b <;> simp only [IsAnswer] at ha hb
    next x y => exact congrArg _ (Option.ext fun r => (ha r).trans (hb r).symm)
  | getByUserCode code =>
    cases a <;> cases b <;> simp only [IsAnswer] at ha hb
    next x y => exact congrArg _ (Option.ext fun r => (ha r).trans (hb r).symm)

namespace MemoryStore

variable {s : MemoryStore} {h : History} {now later : Instant} {r : DeviceRecord} {code u : String}

/-! ## The relation -/

/-- At a reading of the clock, the store holds every record that is remembered and live, and
nothing that is not remembered. -/
structure Remembers (s : MemoryStore) (h : History) (now : Instant) : Prop where
  paired : s.Paired
  known : ∀ code r, s.devices.get? code = some r → r ∈ h
  kept : ∀ r ∈ h, r.isLive now = true → s.devices.get? r.deviceCode = some r

namespace Remembers

theorem of_empty (now : Instant) : empty.Remembers [] now where
  paired := paired_empty
  known := by
    intro code r hr
    simp [empty] at hr
  kept := by simp

/-- A store whose tables are inverse remembers what it holds. -/
theorem of_paired (hs : s.Paired) (now : Instant) :
    s.Remembers (s.devices.entries.map (·.2)) now where
  paired := hs
  known code r hr := List.mem_map.2 ⟨(code, r), Table.mem_entries_iff.2 hr, rfl⟩
  kept := by
    intro r hr _
    obtain ⟨⟨code, _⟩, he, rfl⟩ := List.mem_map.1 hr
    have hheld := Table.mem_entries_iff.1 he
    rw [(hs.device code _ hheld).1]
    exact hheld

theorem of_le (hs : s.Remembers h now) (hle : now ≤ later) : s.Remembers h later where
  paired := hs.paired
  known := hs.known
  kept r hr hlive := hs.kept r hr (DeviceRecord.isLive_of_le hle hlive)

theorem getByDeviceCode_iff (hs : s.Remembers h now) :
    s.getByDeviceCode now code = some r ↔
      r ∈ h ∧ r.deviceCode = code ∧ r.isLive now = true := by
  rw [getByDeviceCode_eq_some]
  constructor
  · rintro ⟨hr, hlive⟩
    exact ⟨hs.known code r hr, (hs.paired.device code r hr).1, hlive⟩
  · rintro ⟨hr, rfl, hlive⟩
    exact ⟨hs.kept r hr hlive, hlive⟩

theorem getByUserCode_iff (hs : s.Remembers h now) :
    s.getByUserCode now u = some r ↔ r ∈ h ∧ r.userCode = u ∧ r.isLive now = true := by
  rw [hs.paired.getByUserCode_iff, hs.getByDeviceCode_iff]
  constructor
  · rintro ⟨⟨hr, _, hlive⟩, huser⟩
    exact ⟨hr, huser, hlive⟩
  · rintro ⟨hr, huser, hlive⟩
    exact ⟨⟨hr, rfl, hlive⟩, huser⟩

/-- An insert is refused exactly if a remembered live record has one of the two codes. -/
theorem holdsLive_eq_false_iff (hs : s.Remembers h now) :
    s.holdsLive now r = false ↔ ∀ q ∈ h, q.isLive now = true →
      q.deviceCode ≠ r.deviceCode ∧ q.userCode ≠ r.userCode := by
  rw [holdsLive_eq_false, Option.eq_none_iff_forall_ne_some, Option.eq_none_iff_forall_ne_some]
  constructor
  · rintro ⟨hdevice, huser⟩ q hq hlive
    constructor
    · intro heq
      exact hdevice q (hs.getByDeviceCode_iff.2 ⟨hq, heq, hlive⟩)
    · intro heq
      exact huser q (hs.getByUserCode_iff.2 ⟨hq, heq, hlive⟩)
  · intro hall
    constructor
    · intro q hq
      obtain ⟨hmem, heq, hlive⟩ := hs.getByDeviceCode_iff.1 hq
      exact (hall q hmem hlive).1 heq
    · intro q hq
      obtain ⟨hmem, heq, hlive⟩ := hs.getByUserCode_iff.1 hq
      exact (hall q hmem hlive).2 heq

/-- Two remembered live records that share a code are one. -/
theorem eq_of_shared_code (hs : s.Remembers h now) {q : DeviceRecord} (hq : q ∈ h) (hr : r ∈ h)
    (hqlive : q.isLive now = true) (hrlive : r.isLive now = true)
    (hshared : q.deviceCode = r.deviceCode ∨ q.userCode = r.userCode) : q = r := by
  rcases hshared with heq | heq
  · have hfound := hs.getByDeviceCode_iff.2 ⟨hq, heq, hqlive⟩
    rw [hs.getByDeviceCode_iff.2 ⟨hr, rfl, hrlive⟩] at hfound
    exact (Option.some.inj hfound).symm
  · have hfound := hs.getByUserCode_iff.2 ⟨hq, heq, hqlive⟩
    rw [hs.getByUserCode_iff.2 ⟨hr, rfl, hrlive⟩] at hfound
    exact (Option.some.inj hfound).symm

/-! ## One call -/

/-- An insert that succeeds: what it reclaims is expired, so no remembered live record goes. -/
theorem reclaim_put (hs : s.Remembers h now) (hfree : s.holdsLive now r = false) :
    ((s.reclaim r).put r).Remembers (h ++ [r]) now where
  paired := hs.paired.reclaim_put r
  known := by
    intro code q hq
    rw [get?_devices_reclaim_put] at hq
    split at hq
    · cases hq
      simp
    · split at hq
      · cases hq
      · exact List.mem_append_left _ (hs.known code q hq)
  kept := by
    intro q hq hlive
    rw [get?_devices_reclaim_put]
    rcases List.mem_append.1 hq with hq | hq
    · obtain ⟨hdevice, huser⟩ := hs.holdsLive_eq_false_iff.1 hfree q hq hlive
      -- The owner of the user code is another record than `q`, which is live.
      have howner : s.users.get? r.userCode ≠ some q.deviceCode := by
        intro howner
        obtain ⟨q', hq', hquser⟩ := hs.paired.user _ _ howner
        rw [hs.kept q hq hlive] at hq'
        cases hq'
        exact huser hquser
      rw [if_neg hdevice, if_neg howner]
      exact hs.kept q hq hlive
    · obtain rfl : q = r := by simpa using hq
      simp

theorem remove (hs : s.Remembers h now) (code : String) :
    (s.remove code).Remembers (h.filter fun q => q.deviceCode ≠ code) now where
  paired := hs.paired.remove code
  known := by
    intro other q hq
    rw [get?_devices_remove] at hq
    split at hq
    · cases hq
    · next hne =>
      obtain ⟨hcode, _⟩ := hs.paired.device other q hq
      exact List.mem_filter.2 ⟨hs.known other q hq, by simpa [hcode] using hne⟩
  kept := by
    intro q hq hlive
    obtain ⟨hmem, hne⟩ := List.mem_filter.1 hq
    rw [get?_devices_remove, if_neg (by simpa using hne)]
    exact hs.kept q hmem hlive

theorem deleteExpired (hs : s.Remembers h now) : (s.deleteExpired now).2.Remembers h now where
  paired := hs.paired.deleteExpired now
  known := by
    intro code q hq
    rw [get?_devices_deleteExpired] at hq
    exact (hs.getByDeviceCode_iff.1 hq).1
  kept := by
    intro q hq hlive
    rw [get?_devices_deleteExpired]
    exact hs.getByDeviceCode_iff.2 ⟨hq, rfl, hlive⟩

theorem answer {c : TimedCall} (hs : s.Remembers h c.now) :
    (s.answer c).2.Remembers (h.remember c.call (s.answer c).1) c.now := by
  obtain ⟨now, call⟩ := c
  cases call with
  | insert r =>
    cases hlive : s.holdsLive now r with
    | true => simpa [MemoryStore.answer, insertIfAbsent_of_holdsLive hlive, History.remember] using hs
    | false =>
      simpa [MemoryStore.answer, insertIfAbsent_of_free hlive, History.remember]
        using hs.reclaim_put hlive
  | delete code => exact hs.remove code
  | deleteExpired => exact hs.deleteExpired
  | getByDeviceCode code => exact hs
  | getByUserCode code => exact hs

/-! ## Answers -/

/-- Not more records are swept than are remembered and expired: each is held only once. -/
theorem length_expiredCodes_le (hs : s.Remembers h now) :
    (s.expiredCodes now).length ≤ h.countP (·.isExpired now) := by
  let expired := (s.devices.entries.filter fun e => e.2.isExpired now).map (·.2)
  have hsub : expired ⊆ h.filter (·.isExpired now) := by
    intro q hq
    obtain ⟨⟨code, _⟩, he, rfl⟩ := List.mem_map.1 hq
    obtain ⟨hmem, hexp⟩ := List.mem_filter.1 he
    exact List.mem_filter.2 ⟨hs.known code _ (Table.mem_entries_iff.1 hmem), hexp⟩
  have hcodes : expired.map (·.deviceCode) = s.expiredCodes now := by
    simp only [expired, expiredCodes, List.map_map]
    refine List.map_congr_left fun e he => ?_
    exact (hs.paired.device e.1 e.2 (Table.mem_entries_iff.1 (List.mem_filter.1 he).1)).1
  have hnodup : expired.Nodup := by
    refine List.Nodup.of_map (·.deviceCode) ?_
    rw [hcodes]
    exact s.devices.nodup.sublist (List.Sublist.map _ List.filter_sublist)
  calc (s.expiredCodes now).length = expired.length := by rw [← hcodes, List.length_map]
    _ ≤ (h.filter (·.isExpired now)).length :=
        (List.subperm_of_subset hnodup hsub).length_le
    _ = h.countP (·.isExpired now) := List.countP_eq_length_filter.symm

/-- Every call is answered as the history calls for. -/
theorem isAnswer {c : TimedCall} (hs : s.Remembers h c.now) (hnow : c.now ≤ c.now) :
    h.IsAnswer c.now c.call (s.answer c).1 := by
  obtain ⟨now, call⟩ := c
  cases call with
  | insert r =>
    have hiff := hs.holdsLive_eq_false_iff (r := r)
    simp only [DeviceRecord.isLive_iff hnow] at hiff
    cases hlive : s.holdsLive now r with
    | true => simpa [MemoryStore.answer, insertIfAbsent_of_holdsLive hlive, History.IsAnswer, hlive]
        using hiff
    | false => simpa [MemoryStore.answer, insertIfAbsent_of_free hlive, History.IsAnswer, hlive]
        using hiff
  | delete code =>
    simp only [History.IsAnswer, MemoryStore.answer, delete, Prod.map, Table.contains]
    constructor
    · intro hsome
      obtain ⟨r, hr⟩ := Option.isSome_iff_exists.1 hsome
      exact ⟨r, hs.known code r hr, (hs.paired.device code r hr).1⟩
    · rintro ⟨q, hq, rfl, hlive⟩
      rw [hs.kept q hq ((DeviceRecord.isLive_iff hnow).2 hlive)]
      rfl
  | deleteExpired => exact hs.length_expiredCodes_le
  | getByDeviceCode code =>
    intro r
    rw [← DeviceRecord.isLive_iff hnow]
    exact hs.getByDeviceCode_iff
  | getByUserCode code =>
    intro r
    rw [← DeviceRecord.isLive_iff hnow]
    exact hs.getByUserCode_iff

end Remembers

/-! ## Runs -/

/-- The history of a run from the empty store. -/
def history (calls : List TimedCall) : History := .ofTranscript (empty.transcript calls)

theorem history_append_singleton (past : List TimedCall) (c : TimedCall) :
    history (past ++ [c]) = (history past).remember c.call ((empty.run past).answer c).1 := by
  rw [history, transcript_append_singleton, History.ofTranscript_append_singleton]
  rfl

/-- After a run with a clock that never decreases, the store and its history are related at every
later reading. -/
theorem remembers_run (past : List TimedCall) (now : Instant)
    (hclock : NeverDecreases (past.map (·.now) ++ [now])) :
    (empty.run past).Remembers (history past) now := by
  -- On the last call: the relation holds at its reading, and from there on at later ones.
  induction past using List.reverseRecOn generalizing now with
  | nil => exact .of_empty now
  | append_singleton past c ih =>
    rw [List.map_append, List.map_singleton] at hclock
    have hbefore := ih c.now hclock.of_append
    rw [run_append_singleton, history_append_singleton]
    exact hbefore.answer.of_le hclock.le_of_last_two

/-- Calls without the sweeps. -/
def withoutSweeps (calls : List TimedCall) : List TimedCall :=
  calls.filter fun c => c.call ≠ .deleteExpired

theorem neverDecreases_withoutSweeps {past : List TimedCall} {now : Instant}
    (hclock : NeverDecreases (past.map (·.now) ++ [now])) :
    NeverDecreases ((withoutSweeps past).map (·.now) ++ [now]) :=
  hclock.of_sublist ((List.filter_sublist.map _).append (List.Sublist.refl _))

/-- Runs with one history answer look-ups and inserts alike. -/
theorem answer_eq_of_history_eq {past past' : List TimedCall} {c : TimedCall}
    (hclock : NeverDecreases (past.map (·.now) ++ [c.now]))
    (hclock' : NeverDecreases (past'.map (·.now) ++ [c.now]))
    (hsame : history past' = history past) (hcall : c.call.isRemoval = false) :
    ((empty.run past').answer c).1 = ((empty.run past).answer c).1 := by
  have hanswer := (remembers_run past c.now hclock).isAnswer hclock.last_le_self
  have hanswer' := (remembers_run past' c.now hclock').isAnswer hclock'.last_le_self
  rw [hsame] at hanswer'
  exact hanswer'.unique hcall hanswer

/-- Sweeps leave no trace in a history. -/
theorem history_withoutSweeps (past : List TimedCall)
    (hclock : NeverDecreases (past.map (·.now))) :
    history (withoutSweeps past) = history past := by
  induction past using List.reverseRecOn with
  | nil => rfl
  | append_singleton past c ih =>
    rw [List.map_append, List.map_singleton] at hclock
    have hbefore := ih hclock.of_append
    rw [history_append_singleton]
    by_cases hsweep : c.call = .deleteExpired
    · have hsame : withoutSweeps (past ++ [c]) = withoutSweeps past := by
        simp [withoutSweeps, hsweep]
      rw [hsame, hbefore, hsweep]
      rfl
    · have happend : withoutSweeps (past ++ [c]) = withoutSweeps past ++ [c] := by
        simp [withoutSweeps, hsweep]
      rw [happend, history_append_singleton, hbefore]
      -- A delete forgets by its code; any other answer is the same in both runs.
      cases hcall : c.call.isRemoval with
      | true =>
        obtain ⟨code, hdelete⟩ : ∃ code, c.call = .delete code := by
          cases h : c.call <;> simp_all [StoreCall.isRemoval]
        rw [hdelete]
        rfl
      | false =>
        rw [answer_eq_of_history_eq hclock (neverDecreases_withoutSweeps hclock) hbefore hcall]

/-- The store in memory is its history. In every run from the empty store with a clock that never
decreases, every call is answered as the records call for that were stored and not deleted since.
Hence sweeps, wherever they are placed, change no answer to a look-up or an insert; no insert,
sweep or look-up loses, replaces or alters a live record; and at most one live record answers to
any code. -/
theorem answers_follow_history (past : List TimedCall) (c : TimedCall)
    (hclock : NeverDecreases ((past ++ [c]).map (·.now))) :
    (history past).IsAnswer c.now c.call ((empty.run past).answer c).1 ∧
    (∀ past', NeverDecreases ((past' ++ [c]).map (·.now)) →
      withoutSweeps past' = withoutSweeps past → c.call.isRemoval = false →
        ((empty.run past').answer c).1 = ((empty.run past).answer c).1) ∧
    (∀ code r, ((empty.run past).getByDeviceCode c.now code = some r ∨
        (empty.run past).getByUserCode c.now code = some r) →
      (∀ deleted, c.call ≠ .delete deleted) → ∀ t, c.now ≤ t → t ≤ .whole r.expiresAt →
        (empty.run (past ++ [c])).getByDeviceCode t r.deviceCode = some r ∧
        (empty.run (past ++ [c])).getByUserCode t r.userCode = some r) ∧
    ∀ q ∈ history past, ∀ r ∈ history past,
      c.now ≤ .whole q.expiresAt → c.now ≤ .whole r.expiresAt →
        q.deviceCode = r.deviceCode ∨ q.userCode = r.userCode → q = r := by
  rw [List.map_append, List.map_singleton] at hclock
  have hnow := hclock.last_le_self
  have hs := remembers_run past c.now hclock
  refine ⟨hs.isAnswer hnow, ?_, ?_, ?_⟩
  · intro past' hclock' hsweeps hcall
    rw [List.map_append, List.map_singleton] at hclock'
    refine answer_eq_of_history_eq hclock hclock' ?_ hcall
    rw [← history_withoutSweeps past hclock.of_append, ← hsweeps,
      history_withoutSweeps past' hclock'.of_append]
  · intro code r hfound hdelete t hle hlive
    have hr : r ∈ history past := by
      rcases hfound with hfound | hfound
      · exact (hs.getByDeviceCode_iff.1 hfound).1
      · exact (hs.getByUserCode_iff.1 hfound).1
    have hlater := hs.answer.of_le hle
    have hmem := History.mem_remember hr hdelete ((empty.run past).answer c).1
    rw [run_append_singleton]
    have hrlive := (DeviceRecord.isLive_iff (Instant.le_self_of_le hle).2).2 hlive
    exact ⟨hlater.getByDeviceCode_iff.2 ⟨hmem, rfl, hrlive⟩,
      hlater.getByUserCode_iff.2 ⟨hmem, rfl, hrlive⟩⟩
  · intro q hq r hr hqlive hrlive hshared
    rw [← DeviceRecord.isLive_iff hnow] at hqlive hrlive
    exact hs.eq_of_shared_code hq hr hqlive hrlive hshared

/-- A record that expires at a second, and calls around it. -/
def sampleRecord (deviceCode userCode : String) (expiresAt : Int) : DeviceRecord :=
  ⟨deviceCode, userCode, ⟨"tv", .empty, .empty⟩, 0, expiresAt, .pending⟩

/-- The user code of an expired record is taken over, and the old record is deleted late. -/
def takeover : List TimedCall :=
  [⟨.whole 0, .insert (sampleRecord "d1" "u" 5)⟩, ⟨.whole 6, .insert (sampleRecord "d2" "u" 9)⟩,
    ⟨.whole 7, .delete "d1"⟩]

/-- A look-up of the user code at the last second of its new owner. -/
def takeoverLookup : TimedCall := ⟨.whole 9, .getByUserCode "u"⟩

/-- The late delete does not touch the new owner of the user code, which is found up to and
including its second of expiry. -/
theorem answers_follow_history_takeover :
    NeverDecreases ((takeover ++ [takeoverLookup]).map (·.now)) ∧
      (empty.run takeover).getByUserCode (.whole 9) "u" = some (sampleRecord "d2" "u" 9) := by
  have hclock : NeverDecreases ((takeover ++ [takeoverLookup]).map (·.now)) := by
    constructor <;> simp [takeover, takeoverLookup]
  refine ⟨hclock, ?_⟩
  have hanswer := (answers_follow_history takeover takeoverLookup hclock).1
  refine (hanswer (sampleRecord "d2" "u" 9)).2 ⟨by decide, rfl, ?_⟩
  simp [takeoverLookup, sampleRecord]

end MemoryStore

end DeviceGrant
