import DeviceGrant.Issuer
import DeviceGrant.Proofs.Store.History
set_option autoImplicit false

/-! # The issuing loop over the store in memory

The loop draws pairs until one is stored. Over the store in memory a pair is refused exactly if a
live record holds one of its codes, and a refusal leaves the store as it was; so all attempts meet
the store of the first one, and the loop ends at the first free pair, which `FirstFree` describes
without the loop. The pairs up to that one are drawn and no others, its record is inserted into the
store as it was at first, and without a free pair all attempts are made in vain
(`issue_takes_first_free`). -/

namespace DeviceGrant

/-! ## Free pairs -/

/-- No live record holds either code of a pair. -/
def MemoryStore.IsFree (m : MemoryStore) (now : Instant) (deviceCode userCode : String) : Prop :=
  ∀ code r, m.devices.get? code = some r → r.isLive now = true →
    r.deviceCode ≠ deviceCode ∧ r.userCode ≠ userCode

/-- An insert finds a pair free exactly if no live record, under whatever code it is held, has one
of the two codes. -/
theorem MemoryStore.Paired.holdsLive_eq_false_iff {m : MemoryStore} (hm : m.Paired)
    {now : Instant} {r : DeviceRecord} :
    m.holdsLive now r = false ↔ m.IsFree now r.deviceCode r.userCode := by
  simp only [holdsLive_eq_false, Option.eq_none_iff_forall_ne_some]
  constructor
  · rintro ⟨hdevice, huser⟩ code q hq hlive
    obtain ⟨rfl, _⟩ := hm.device code q hq
    have hfound := getByDeviceCode_eq_some.2 ⟨hq, hlive⟩
    constructor
    · intro heq
      exact hdevice q (heq ▸ hfound)
    · intro heq
      exact huser q (hm.getByUserCode_iff.2 ⟨hfound, heq⟩)
  · intro hfree
    constructor
    · intro q hfound
      obtain ⟨hq, hlive⟩ := getByDeviceCode_eq_some.1 hfound
      exact (hfree _ q hq hlive).1 (hm.device _ q hq).1
    · intro q hfound
      obtain ⟨hbydevice, huser⟩ := hm.getByUserCode_iff.1 hfound
      obtain ⟨hq, hlive⟩ := getByDeviceCode_eq_some.1 hbydevice
      exact (hfree _ q hq hlive).2 huser

/-- Storing a live record changes a store that held no live record of its codes. -/
theorem MemoryStore.reclaim_put_ne {m : MemoryStore} {now : Instant} {r : DeviceRecord}
    (hfree : m.holdsLive now r = false) (hlive : r.isLive now = true) :
    (m.reclaim r).put r ≠ m := by
  intro heq
  have hfound := getByDeviceCode_reclaim_put m hlive
  rw [heq, (holdsLive_eq_false.1 hfree).1] at hfound
  cases hfound

namespace Issuer

variable {i : Issuer} {codes : CodeSource} {now : Instant} {request : AuthorizationRequest}
  {m : MemoryStore} {start k : Nat} {r : DeviceRecord}

/-- Of the pairs that `left` attempts draw from `start` on, number `k` is the first one that no
live record holds, and `r` is its record. -/
structure FirstFree (i : Issuer) (codes : CodeSource) (now : Instant)
    (request : AuthorizationRequest) (m : MemoryStore) (start left k : Nat) (r : DeviceRecord) :
    Prop where
  start_le : start ≤ k
  lt_end : k < start + left
  taken : ∀ j q, start ≤ j → j < k → i.newRecord codes now request j = .ok q →
    m.holdsLive now q = true
  record : i.newRecord codes now request k = .ok r
  free : m.holdsLive now r = false

/-- Whether there is a record depends on the reading of the clock, not on the pair. -/
theorem newRecord_eq_error_iff {f : Failure} :
    i.newRecord codes now request k = .error f ↔ now.truncate = .error f := by
  unfold newRecord
  cases now.truncate <;> simp [Except.map]

theorem newRecord_eq_ok_iff :
    i.newRecord codes now request k = .ok r ↔ ∃ second, now.truncate = .ok second ∧
      ⟨codes.device k, codes.user k, request, second, second + i.expirySeconds, .pending⟩ = r := by
  unfold newRecord
  cases now.truncate <;> simp [Except.map]

/-- What an insert of a drawn pair keeps, whether it stores the record or not, attempts keep. -/
theorem attempt_keeps {P : Issuance → Prop} (hinsert : ∀ s r, P s →
      i.newRecord codes now request s.drawn = .ok r →
        P ⟨(s.store.insertIfAbsent now r).2, s.drawn + 1⟩)
    (left : Nat) {s : Issuance} (hs : P s) : P (i.attempt codes now request left s).2 := by
  induction left generalizing s with
  | zero => exact hs
  | succ left ih =>
    unfold attempt
    split
    · exact hs
    · next r hr =>
      have hinserted := hinsert s r hs hr
      dsimp only
      split
      · exact hinserted
      · exact hinserted
      · exact ih hinserted

/-! ## One attempt -/

theorem attempt_of_no_record (left : Nat) {f : Failure}
    (h : i.newRecord codes now request start = .error f) :
    i.attempt codes now request (left + 1) ⟨.memory m, start⟩ =
      (.silent (.error f), ⟨.memory m, start⟩) := by
  simp only [attempt, h]

theorem attempt_of_free (left : Nat) (h : i.newRecord codes now request start = .ok r)
    (hfree : m.holdsLive now r = false) :
    i.attempt codes now request (left + 1) ⟨.memory m, start⟩ =
      (⟨.ok (r.userCode, r.deviceCode),
        [.codesGenerated request.clientId r.userCode r.deviceCode]⟩,
        ⟨.memory ((m.reclaim r).put r), start + 1⟩) := by
  simp only [attempt, h, Store.insertIfAbsent, MemoryStore.insertIfAbsent_of_free hfree]
  rfl

theorem attempt_of_taken (left : Nat) (h : i.newRecord codes now request start = .ok r)
    (htaken : m.holdsLive now r = true) :
    i.attempt codes now request (left + 1) ⟨.memory m, start⟩ =
      let next := i.attempt codes now request left ⟨.memory m, start + 1⟩
      (⟨next.1.value, .codeCollision (i.maxAttempts - left) i.maxAttempts :: next.1.events⟩,
        next.2) := by
  simp only [attempt, h, Store.insertIfAbsent, MemoryStore.insertIfAbsent_of_holdsLive htaken]
  rfl

/-- A taken pair in front does not change which pair is the first free one. -/
theorem firstFree_succ_iff {left : Nat} {q : DeviceRecord}
    (h : i.newRecord codes now request start = .ok q) (htaken : m.holdsLive now q = true) :
    i.FirstFree codes now request m start (left + 1) k r ↔
      i.FirstFree codes now request m (start + 1) left k r := by
  constructor
  · intro hk
    have hne : start ≠ k := by
      rintro rfl
      rw [Except.ok.inj (h.symm.trans hk.record), hk.free] at htaken
      cases htaken
    have hstart := hk.start_le
    have hend := hk.lt_end
    exact ⟨by omega, by omega, fun j p hj => hk.taken j p (by omega), hk.record, hk.free⟩
  · intro hk
    have hstart := hk.start_le
    have hend := hk.lt_end
    refine ⟨by omega, by omega, fun j p hj hjk hp => ?_, hk.record, hk.free⟩
    by_cases heq : j = start
    · rw [heq, h] at hp
      rw [← Except.ok.inj hp]
      exact htaken
    · exact hk.taken j p (by omega) hjk hp

theorem FirstFree.unique {left k' : Nat} {r' : DeviceRecord}
    (h : i.FirstFree codes now request m start left k r)
    (h' : i.FirstFree codes now request m start left k' r') : k = k' ∧ r = r' := by
  have hk : k = k' := by
    rcases Nat.lt_trichotomy k k' with hlt | heq | hlt
    · have htaken := h'.taken k r h.start_le hlt h.record
      rw [h.free] at htaken
      cases htaken
    · exact heq
    · have htaken := h.taken k' r' h'.start_le hlt h'.record
      rw [h'.free] at htaken
      cases htaken
  subst hk
  exact ⟨rfl, Except.ok.inj (h.record.symm.trans h'.record)⟩

/-- Without a first free pair all pairs are taken. -/
theorem holdsLive_of_none_free {left : Nat}
    (hnone : ∀ k r, ¬ i.FirstFree codes now request m start left k r) (j : Nat) {q : DeviceRecord}
    (hstart : start ≤ j) (hend : j < start + left)
    (hq : i.newRecord codes now request j = .ok q) : m.holdsLive now q = true := by
  -- A free pair behind taken ones only would be the first.
  induction j using Nat.strongRecOn generalizing q with
  | ind j ih =>
    cases hlive : m.holdsLive now q with
    | true => rfl
    | false =>
      refine absurd ⟨hstart, hend, fun j' q' hj' hlt hq' => ?_, hq, hlive⟩ (hnone j q)
      exact ih j' hlt hj' (by omega) hq'

/-! ## The loop -/

/-- The loop stores the record of the first free pair, having drawn the pairs up to it, or fails
with the store as it was. At a reading with a whole second it fails by exhaustion, having drawn all
the pairs that it may. -/
theorem attempt_cases (i : Issuer) (codes : CodeSource) (now : Instant)
    (request : AuthorizationRequest) (m : MemoryStore) (left start : Nat) :
    (∃ k r, i.FirstFree codes now request m start left k r ∧
      (i.attempt codes now request left ⟨.memory m, start⟩).1.value =
        .ok (r.userCode, r.deviceCode) ∧
      (i.attempt codes now request left ⟨.memory m, start⟩).2 =
        ⟨.memory ((m.reclaim r).put r), k + 1⟩) ∨
    ((∀ k r, ¬ i.FirstFree codes now request m start left k r) ∧
      (∃ f, (i.attempt codes now request left ⟨.memory m, start⟩).1.value = .error f) ∧
      (i.attempt codes now request left ⟨.memory m, start⟩).2.store = .memory m ∧
      ∀ second, now.truncate = .ok second →
        (i.attempt codes now request left ⟨.memory m, start⟩).1.value =
          .error (.refused (.exhausted i.maxAttempts)) ∧
        (i.attempt codes now request left ⟨.memory m, start⟩).2.drawn = start + left) := by
  induction left generalizing start with
  | zero =>
    refine .inr ⟨fun k r hk => ?_, ⟨_, rfl⟩, rfl, fun _ _ => ⟨rfl, rfl⟩⟩
    have hstart := hk.start_le
    have hend := hk.lt_end
    omega
  | succ left ih =>
    cases hrecord : i.newRecord codes now request start with
    | error f =>
      rw [attempt_of_no_record left hrecord]
      refine .inr ⟨fun k r hk => ?_, ⟨f, rfl⟩, rfl, fun second hsecond => ?_⟩
      · -- A later pair meets the same reading of the clock.
        have hnone : i.newRecord codes now request k = .error f :=
          newRecord_eq_error_iff.2 (newRecord_eq_error_iff.1 hrecord)
        rw [hk.record] at hnone
        cases hnone
      · rw [newRecord_eq_error_iff.1 hrecord] at hsecond
        cases hsecond
    | ok r =>
      cases hlive : m.holdsLive now r with
      | false =>
        rw [attempt_of_free left hrecord hlive]
        refine .inl ⟨start, r, ⟨Nat.le_refl _, by omega, fun j q hj hjk => ?_, hrecord, hlive⟩,
          rfl, rfl⟩
        omega
      | true =>
        rw [attempt_of_taken left hrecord hlive]
        rcases ih (start + 1) with ⟨k, q, hk, hvalue, hafter⟩ | ⟨hnone, hfails, hstore, hdrawn⟩
        · exact .inl ⟨k, q, (firstFree_succ_iff hrecord hlive).2 hk, hvalue, hafter⟩
        · refine .inr ⟨fun k q hk => hnone k q ((firstFree_succ_iff hrecord hlive).1 hk), hfails,
            hstore, fun second hsecond => ?_⟩
          obtain ⟨hexhausted, hcount⟩ := hdrawn second hsecond
          exact ⟨hexhausted, by rw [hcount]; omega⟩

theorem issue_of_firstFree (hk : i.FirstFree codes now request m start i.maxAttempts.toNat k r) :
    (i.issue codes now request ⟨.memory m, start⟩).1.value = .ok (r.userCode, r.deviceCode) ∧
    (i.issue codes now request ⟨.memory m, start⟩).2 =
      ⟨.memory ((m.reclaim r).put r), k + 1⟩ := by
  rcases i.attempt_cases codes now request m i.maxAttempts.toNat start with
    ⟨k', r', hk', hvalue, hafter⟩ | ⟨hnone, _⟩
  · obtain ⟨rfl, rfl⟩ := hk.unique hk'
    exact ⟨hvalue, hafter⟩
  · exact absurd hk (hnone k r)

theorem issue_of_none_free
    (hnone : ∀ k r, ¬ i.FirstFree codes now request m start i.maxAttempts.toNat k r) :
    (∃ f, (i.issue codes now request ⟨.memory m, start⟩).1.value = .error f) ∧
    (i.issue codes now request ⟨.memory m, start⟩).2.store = .memory m := by
  rcases i.attempt_cases codes now request m i.maxAttempts.toNat start with
    ⟨k, r, hk, _⟩ | ⟨_, hfails, hstore, _⟩
  · exact absurd hk (hnone k r)
  · exact ⟨hfails, hstore⟩

/-! ## Issues -/

/-- A reading without a whole second ends an issue before a pair is drawn, unless no attempt is
allowed anyway. -/
theorem issue_of_no_second {f : Failure} (h : now.truncate = .error f) :
    (i.issue codes now request ⟨.memory m, start⟩).1.value =
      .error (if 0 < i.maxAttempts then f else .refused (.exhausted i.maxAttempts)) ∧
    (i.issue codes now request ⟨.memory m, start⟩).2 = ⟨.memory m, start⟩ := by
  unfold issue
  cases hleft : i.maxAttempts.toNat with
  | zero =>
    rw [if_neg (by omega)]
    exact ⟨rfl, rfl⟩
  | succ left =>
    rw [if_pos (by omega), attempt_of_no_record left (newRecord_eq_error_iff.2 h)]
    exact ⟨rfl, rfl⟩

/-- Of the pairs that an issue may draw, the first free one is issued, and nothing else happens.
Over every store in memory that can come about: if one of the pairs is free, then for the first
such pair the codes are returned, the pairs up to and including it have been drawn, and the store is
what the insert of its record makes of the store before. If none is free, the issue is refused after
all pairs have been drawn, and the store is as it was. A reading of the clock without a whole second
ends the issue before anything happens. -/
theorem issue_takes_first_free (i : Issuer) (codes : CodeSource) (now : Instant)
    (request : AuthorizationRequest) (past : List TimedCall) (drawn : Nat) :
    let m := MemoryStore.empty.run past
    let out := i.issue codes now request ⟨.memory m, drawn⟩
    let last := drawn + i.maxAttempts.toNat
    let free (k : Nat) := m.IsFree now (codes.device k) (codes.user k)
    (∀ second, now.truncate = .ok second →
      ((∃ k, drawn ≤ k ∧ k < last ∧ free k) →
        ∃ k m', drawn ≤ k ∧ k < last ∧ free k ∧ (∀ j, drawn ≤ j → j < k → ¬ free j) ∧
          out.1.value = .ok (codes.user k, codes.device k) ∧
          m.insertIfAbsent now ⟨codes.device k, codes.user k, request, second,
            second + i.expirySeconds, .pending⟩ = (true, m') ∧
          out.2 = ⟨.memory m', k + 1⟩) ∧
      ((∀ k, drawn ≤ k → k < last → ¬ free k) →
        out.1.value = .error (.refused (.exhausted i.maxAttempts)) ∧
        out.2 = ⟨.memory m, last⟩)) ∧
    ∀ f, now.truncate = .error f →
      out.1.value =
        .error (if 0 < i.maxAttempts then f else .refused (.exhausted i.maxAttempts)) ∧
      out.2 = ⟨.memory m, drawn⟩ := by
  intro m out last free
  have hm : m.Paired := MemoryStore.paired_empty.run past
  refine ⟨fun second hsecond => ?_, fun f hf => issue_of_no_second hf⟩
  -- The record of a pair, and that an insert of it succeeds exactly if the pair is free.
  let record (k : Nat) : DeviceRecord :=
    ⟨codes.device k, codes.user k, request, second, second + i.expirySeconds, .pending⟩
  have hrecord : ∀ k, i.newRecord codes now request k = .ok (record k) := fun k =>
    newRecord_eq_ok_iff.2 ⟨second, hsecond, rfl⟩
  have hfree : ∀ k, m.holdsLive now (record k) = false ↔ free k := fun k =>
    hm.holdsLive_eq_false_iff
  rcases i.attempt_cases codes now request m i.maxAttempts.toNat drawn with
    ⟨k, r, hk, hvalue, hafter⟩ | ⟨hnone, _, hstore, hexhausted⟩
  · obtain rfl : record k = r := Except.ok.inj ((hrecord k).symm.trans hk.record)
    have hkfree : free k := (hfree k).1 hk.free
    refine ⟨fun _ => ⟨k, _, hk.start_le, hk.lt_end, hkfree, fun j hj hjk hjfree => ?_, hvalue,
      MemoryStore.insertIfAbsent_of_free hk.free, hafter⟩, fun hall => ?_⟩
    · have htaken := hk.taken j _ hj hjk (hrecord j)
      rw [(hfree j).2 hjfree] at htaken
      cases htaken
    · exact absurd hkfree (hall k hk.start_le hk.lt_end)
  · obtain ⟨hvalue, hdrawn⟩ := hexhausted second hsecond
    refine ⟨fun ⟨k, hstart, hend, hkfree⟩ => ?_, fun _ => ⟨hvalue, ?_⟩⟩
    · have htaken := holdsLive_of_none_free hnone k hstart hend (hrecord k)
      rw [(hfree k).2 hkfree] at htaken
      cases htaken
    · exact congrArg₂ Issuance.mk hstore hdrawn

/-! ### A pair that reclaims two records -/

open MemoryStore (sampleRecord)

/-- A store with a live record between two that have expired long ago. -/
def twoExpired : MemoryStore :=
  .run .empty [⟨.whole 0, .insert (sampleRecord "d0" "u0" 5)⟩,
    ⟨.whole 0, .insert (sampleRecord "d1" "u1" 2000)⟩,
    ⟨.whole 0, .insert (sampleRecord "d2" "u2" 5)⟩]

/-- The device code of the first expired record, first with the user code of the live one and then
with that of the other expired one. -/
def secondTry : CodeSource := ⟨fun _ => "d0", fun k => if k = 0 then "u1" else "u2"⟩

/-- Half a second after a whole one. -/
def betweenSeconds : Instant := .fractional (.nearest false 2001 2)

/-- Two attempts half a second after a whole one. -/
def secondTryIssue : Logged (Except Failure (String × String)) × Issuance :=
  issue ⟨600, 2⟩ secondTry betweenSeconds ⟨"tv", .empty, .empty⟩ ⟨.memory twoExpired, 0⟩

/-- The first pair is refused for its user code, and the second one takes the place of both expired
records. -/
theorem issue_takes_first_free_second :
    betweenSeconds.truncate = .ok 1000 ∧ twoExpired.IsFree betweenSeconds "d0" "u2" ∧
      secondTryIssue.1.value = .ok ("u2", "d0") ∧ secondTryIssue.2.drawn = 2 ∧
      secondTryIssue.2.store = .memory
        ⟨.ofList [("d1", sampleRecord "d1" "u1" 2000),
          ("d0", ⟨"d0", "u2", ⟨"tv", .empty, .empty⟩, 1000, 1600, .pending⟩)],
          .ofList [("u1", "d1"), ("u2", "d0")]⟩ := by
  have hsecond : betweenSeconds.truncate = .ok 1000 := by decide +kernel
  have hpaired : twoExpired.Paired := MemoryStore.paired_empty.run _
  have hfree : twoExpired.IsFree betweenSeconds "d0" "u2" :=
    (hpaired.holdsLive_eq_false_iff (r := sampleRecord "d0" "u2" 0)).1 (by decide +kernel)
  obtain ⟨k, m', _, hend, hkfree, _, hvalue, hinsert, hafter⟩ :=
    ((issue_takes_first_free ⟨600, 2⟩ secondTry betweenSeconds ⟨"tv", .empty, .empty⟩ _ 0).1 1000
      hsecond).1 ⟨1, by decide, by decide, hfree⟩
  obtain rfl : k = 1 := by
    have hk : k < 2 := hend
    have hne : k ≠ 0 := by
      rintro rfl
      exact (hkfree "d1" (sampleRecord "d1" "u1" 2000) rfl (by decide +kernel)).2 rfl
    omega
  refine ⟨hsecond, hfree, hvalue, congrArg Issuance.drawn hafter, ?_⟩
  have hm' : m' = _ := (congrArg Prod.snd hinsert).symm
  refine (congrArg Issuance.store hafter).trans (congrArg Store.memory (hm'.trans ?_))
  decide +kernel

end Issuer

end DeviceGrant
