import DeviceGrant.Proofs.Authorised
import DeviceGrant.Proofs.Authorization
import DeviceGrant.Proofs.Store.History
set_option autoImplicit false

/-! # How long issued codes are found

An answer tells how many seconds its codes live, and the record that is stored for it expires so
many seconds after the whole second of its issue. Until then both codes are found, and afterwards
neither is, whatever else is asked of the service in between; only a delete of the device code ends
the life of the record earlier (`found_until_expiry`).

The places of the reading at which a record is issued are cut off. So a record that is issued at a
whole second lives for the seconds that are told. One that is issued between two seconds never lives
longer than that, but less than one second shorter (`cut_short`). -/

namespace DeviceGrant

/-! ## Whole seconds of readings -/

namespace Number.Binary64

theorem value?_of_toDyadic? {x : Binary64} {num : Int} {scale : Nat}
    (h : x.toDyadic? = some (num, scale)) :
    x.value? = some (((num : ℝ) / 2 ^ scale : ℝ) : EReal) := by
  cases x with
  | nan => cases h
  | infinite negative => cases h
  | finite negative m e => simp only [value?, h, Option.map_some]

/-- Of a double from zero on, the places are cut off downwards. -/
theorem floor_of_truncate? {x : Binary64} {n : Int} {v : EReal} (h : x.truncate? = some n)
    (hv : x.value? = some v) (hzero : 0 ≤ v) : ∃ y : ℝ, v = y ∧ (n : ℝ) ≤ y ∧ y < n + 1 := by
  obtain ⟨⟨num, scale⟩, hdyadic, hn⟩ := Option.map_eq_some_iff.1 h
  obtain rfl := Option.some.inj ((value?_of_toDyadic? hdyadic).symm.trans hv)
  have hpos : (0 : ℝ) < 2 ^ scale := by positivity
  have hnum : 0 ≤ num := by
    rw [EReal.coe_nonneg, le_div_iff₀ hpos, zero_mul] at hzero
    exact_mod_cast hzero
  have hdiv : num / 2 ^ scale = n := by
    rw [← hn]
    exact (Int.tdiv_eq_ediv_of_nonneg hnum).symm
  have hscale : (0 : Int) < 2 ^ scale := by positivity
  have hfloor : n * 2 ^ scale ≤ num := by
    rw [← hdiv]
    exact Int.ediv_mul_le num hscale.ne'
  have hceil : num < (n + 1) * 2 ^ scale := by
    rw [← hdiv]
    exact Int.lt_ediv_add_one_mul_self num hscale
  refine ⟨_, rfl, ?_, ?_⟩
  · rw [le_div_iff₀ hpos]
    exact_mod_cast hfloor
  · rw [div_lt_iff₀ hpos]
    exact_mod_cast hceil

end Number.Binary64

namespace Instant

variable {start now : Instant} {second seconds : Int}

/-- The last whole second that a reading has reached. -/
def IsLastSecond (second : Int) (t : Instant) : Prop :=
  ∃ x : ℝ, t.value? = some (x : EReal) ∧ (second : ℝ) ≤ x ∧ x < second + 1

theorem isLastSecond_whole (second : Int) : IsLastSecond second (whole second) :=
  ⟨second, rfl, le_rfl, lt_add_one _⟩

/-- From zero on, the places of a reading are cut off downwards. -/
theorem isLastSecond_of_truncate (h : start.truncate = .ok second) (hzero : whole 0 ≤ start) :
    IsLastSecond second start := by
  cases start with
  | whole s =>
    obtain rfl : s = second := Except.ok.inj h
    exact isLastSecond_whole s
  | fractional d =>
    obtain ⟨zero, hzero, v, hv, hle⟩ := hzero
    obtain rfl : (((0 : ℤ) : ℝ) : EReal) = zero := Option.some.inj hzero
    obtain ⟨x, rfl, hfloor, hceil⟩ :=
      Number.Binary64.floor_of_truncate? (truncate?_of_truncate h) hv (by simpa using hle)
    exact ⟨x, hv, hfloor, hceil⟩

/-- A reading lies at most so many seconds after another one. -/
def Within (start now : Instant) (seconds : Int) : Prop :=
  ∃ x ∈ start.value?, ∃ y ∈ now.value?, y ≤ x + ((seconds : ℝ) : EReal)

/-- Up to so many seconds after the whole second of a reading, not more have gone by since. -/
theorem within_of_le (hsecond : IsLastSecond second start)
    (h : now ≤ whole (second + seconds)) : start.Within now seconds := by
  obtain ⟨x, hx, hfloor, _⟩ := hsecond
  obtain ⟨y, hy, last, hlast, hle⟩ := h
  obtain rfl : (((second + seconds : ℤ) : ℝ) : EReal) = last := Option.some.inj hlast
  refine ⟨x, hx, y, hy, hle.trans ?_⟩
  rw [← EReal.coe_add, EReal.coe_le_coe_iff]
  push_cast
  linarith

/-- While a whole second less has gone by since a reading, so many seconds after its whole second
are not over. -/
theorem le_of_within (hsecond : IsLastSecond second start)
    (h : start.Within now (seconds - 1)) : now ≤ whole (second + seconds) := by
  obtain ⟨x, hx, _, hceil⟩ := hsecond
  obtain ⟨x', hx', y, hy, hle⟩ := h
  obtain rfl : (x : EReal) = x' := Option.some.inj (hx.symm.trans hx')
  refine ⟨y, hy, _, rfl, hle.trans ?_⟩
  rw [← EReal.coe_add, EReal.coe_le_coe_iff]
  push_cast
  linarith

theorem within_whole_iff : (whole second).Within now seconds ↔ now ≤ whole (second + seconds) := by
  constructor
  · rintro ⟨x, hx, y, hy, hle⟩
    obtain rfl : ((second : ℝ) : EReal) = x := Option.some.inj hx
    refine ⟨y, hy, _, rfl, hle.trans ?_⟩
    rw [← EReal.coe_add, EReal.coe_le_coe_iff]
    push_cast
    exact le_rfl
  · exact within_of_le (isLastSecond_whole second)

end Instant

/-! ## A record that is kept -/

namespace Service

variable {v : Service} {s : ServiceState} {r : DeviceRecord} {now later : Instant}

/-- The store is in memory, and the record is among those that it remembers. -/
def Keeps (s : ServiceState) (r : DeviceRecord) (now : Instant) : Prop :=
  ∃ m h, s.issuance.store = .memory m ∧ m.Remembers h now ∧ r ∈ h

namespace Keeps

theorem of_le (h : Keeps s r now) (hle : now ≤ later) : Keeps s r later := by
  obtain ⟨m, h, hstore, hremembers, hr⟩ := h
  exact ⟨m, h, hstore, hremembers.of_le hle, hr⟩

/-- A kept record is found under its codes while it is live. -/
theorem getByDeviceCode_iff (h : Keeps s r now) :
    s.issuance.store.getByDeviceCode now r.deviceCode = .ok (some r) ↔ r.isLive now = true := by
  obtain ⟨m, h, hstore, hremembers, hr⟩ := h
  rw [hstore]
  simp only [Store.getByDeviceCode, Except.ok.injEq, hremembers.getByDeviceCode_iff, hr, true_and]

theorem getByUserCode_iff (h : Keeps s r now) :
    s.issuance.store.getByUserCode now r.userCode = .ok (some r) ↔ r.isLive now = true := by
  obtain ⟨m, h, hstore, hremembers, hr⟩ := h
  rw [hstore]
  simp only [Store.getByUserCode, Except.ok.injEq, hremembers.getByUserCode_iff, hr, true_and]

/-- Another authorization stores a record whose codes no live record has, or none. -/
theorem authorize (h : Keeps s r now) (parameters : Table String) (principal : Option Principal)
    (context : RequestContext) : Keeps (v.authorize now parameters principal context s).2 r now := by
  obtain ⟨registry, store, drawn⟩ := s
  obtain ⟨m, h, rfl, hremembers, hr⟩ := h
  rcases v.authorize_cases now context parameters principal registry m drawn with
    ⟨_, hstore⟩ | ⟨request, client, k, q, hvalid, hk⟩
  · exact ⟨m, h, hstore, hremembers, hr⟩
  · obtain ⟨_, hstore⟩ := authorize_of_issues v now context hvalid hk
    exact ⟨_, h ++ [q], hstore, hremembers.reclaim_put hk.free, List.mem_append_left _ hr⟩

/-- Only a delete of its device code ends the keeping of a record. -/
theorem handle (h : Keeps s r now) {call : ServiceCall}
    (hcall : ∀ code, call = .delete code → code ≠ r.deviceCode) :
    Keeps (v.handle s now call) r now := by
  cases call with
  | authorize codes parameters principal context => exact h.authorize parameters principal context
  | getByDeviceCode code => exact h
  | getByUserCode code => exact h
  | delete code =>
    obtain ⟨m, h, hstore, hremembers, hr⟩ := h
    refine ⟨m.remove code, _, ?_, hremembers.remove code, List.mem_filter.2 ⟨hr, ?_⟩⟩
    · simp only [Service.handle, hstore]
      rfl
    · simpa using (hcall code rfl).symm
  | deleteExpired =>
    obtain ⟨m, h, hstore, hremembers, hr⟩ := h
    refine ⟨(m.deleteExpired now).2, h, ?_, hremembers.deleteExpired, hr⟩
    simp only [Service.handle, hstore]
    rfl

theorem run (h : Keeps s r now) (calls : List (Instant × ServiceCall))
    (hclock : NeverDecreases (now :: calls.map (·.1) ++ [later]))
    (hcalls : ∀ c ∈ calls, ∀ code, c.2 = .delete code → code ≠ r.deviceCode) :
    Keeps (v.run s calls) r later := by
  induction calls generalizing s now with
  | nil => exact h.of_le ((List.pairwise_cons.1 hclock.ascending).1 later (by simp))
  | cons c calls ih =>
    have hnext : now ≤ c.1 := (List.pairwise_cons.1 hclock.ascending).1 c.1 (by simp)
    have hrest : NeverDecreases (c.1 :: calls.map (·.1) ++ [later]) :=
      hclock.of_sublist (List.sublist_cons_self ..)
    refine ih ((h.of_le hnext).handle (hcalls c (by simp))) hrest fun c' hc' => ?_
    exact hcalls c' (List.mem_cons_of_mem _ hc')

end Keeps

/-- An authorization over a store in memory that has an answer stores a record for its codes, which
is kept from then on and expires so many seconds after the whole second of its issue as the answer
tells. -/
theorem exists_keeps_of_answer {m : MemoryStore} (hstore : s.issuance.store = .memory m)
    (hm : m.Paired) {parameters : Table String} {principal : Option Principal}
    {context : RequestContext} {a : DeviceResponse}
    (hanswer : (v.authorize now parameters principal context s).1.value = .ok a) :
    a.expiresIn = v.issuer.expirySeconds ∧ ∃ second r, now.truncate = .ok second ∧
      r.deviceCode = a.deviceCode ∧ r.userCode = a.userCode ∧
      r.expiresAt = second + a.expiresIn ∧
      Keeps (v.authorize now parameters principal context s).2 r now := by
  obtain ⟨registry, store, drawn⟩ := s
  obtain rfl : store = .memory m := hstore
  obtain ⟨request, client, k, r, _, hk, hbuild, hafter⟩ :=
    exists_issues_of_answer v now context hanswer
  obtain ⟨uri, interval, rfl⟩ := DeviceResponse.exists_eq_of_build hbuild
  have hkeeps := (MemoryStore.Remembers.of_paired hm now).reclaim_put hk.free
  obtain ⟨second, hsecond, hr⟩ := Issuer.newRecord_eq_ok_iff.1 hk.record
  have hexpires : r.expiresAt = second + v.issuer.expirySeconds := by rw [← hr]
  exact ⟨rfl, second, r, hsecond, rfl, rfl, hexpires, _, _, hafter, hkeeps, by simp⟩

/-- Both codes of an answer lead to the record up to and including a second, and no more after
it. -/
structure FoundUntil (s : ServiceState) (now : Instant) (a : DeviceResponse) (r : DeviceRecord)
    (last : Int) : Prop where
  byDeviceCode : s.issuance.store.getByDeviceCode now a.deviceCode = .ok (some r) ↔
    now ≤ .whole last
  byUserCode : s.issuance.store.getByUserCode now a.userCode = .ok (some r) ↔ now ≤ .whole last

/-- The codes of an answer are found until the seconds that it tells have gone by since the whole
second of the issue. Let an authorization at a reading from zero on have an answer, over any store
in memory that can come about. Then there is a record with the codes of the answer such that,
whatever calls follow but a delete of its device code, at readings that never decrease, both codes
lead to it up to and including that last second, and never after it. So they never do for longer
than the answer tells; they do while a second less than that has gone by; and where the issue was at
a whole second, they do for all of the time that is told. -/
theorem found_until_expiry (v : Service) (past : List TimedCall) (s : ServiceState)
    (start : Instant) (parameters : Table String) (principal : Option Principal)
    (context : RequestContext) (a : DeviceResponse)
    (hstore : s.issuance.store = .memory (MemoryStore.empty.run past))
    (hzero : .whole 0 ≤ start)
    (hanswer : (v.authorize start parameters principal context s).1.value = .ok a) :
    a.expiresIn = v.issuer.expirySeconds ∧
    ∃ second r, Instant.IsLastSecond second start ∧
      r.deviceCode = a.deviceCode ∧ r.userCode = a.userCode ∧
      ∀ (calls : List (Instant × ServiceCall)) (now : Instant),
        NeverDecreases (start :: calls.map (·.1) ++ [now]) →
        (∀ c ∈ calls, ∀ code, c.2 = .delete code → code ≠ a.deviceCode) →
          FoundUntil (v.run (v.authorize start parameters principal context s).2 calls) now a r
            (second + a.expiresIn) ∧
          (now ≤ .whole (second + a.expiresIn) → start.Within now a.expiresIn) ∧
          (start.Within now (a.expiresIn - 1) → now ≤ .whole (second + a.expiresIn)) ∧
          (start = .whole second → start.Within now a.expiresIn →
            now ≤ .whole (second + a.expiresIn)) := by
  obtain ⟨hlifetime, second, r, htruncate, hdevice, huser, hexpires, hkeeps⟩ :=
    exists_keeps_of_answer hstore (MemoryStore.paired_empty.run past) hanswer
  have hsecond := Instant.isLastSecond_of_truncate htruncate hzero
  refine ⟨hlifetime, second, r, hsecond, hdevice, huser, fun calls now hclock hcalls => ?_⟩
  have hlater := hkeeps.run (v := v) calls hclock (by simpa [hdevice] using hcalls)
  have hlive : r.isLive now = true ↔ now ≤ .whole (second + a.expiresIn) := by
    rw [← hexpires]
    exact DeviceRecord.isLive_iff (hclock.numbers now (by simp))
  refine ⟨⟨?_, ?_⟩, Instant.within_of_le hsecond, Instant.le_of_within hsecond, ?_⟩
  · rw [← hdevice, hlater.getByDeviceCode_iff, hlive]
  · rw [← huser, hlater.getByUserCode_iff, hlive]
  · rintro rfl hwithin
    exact Instant.within_whole_iff.1 hwithin

/-! ## An issue between two seconds -/

/-- Half a second after a whole one. -/
def halfPast (second : Nat) : Instant := .fractional (.nearest false (2 * second + 1) 2)

theorem value?_halfPast {second : Nat} (scale : Nat)
    (h : (Number.Binary64.nearest false (2 * second + 1) 2).toDyadic? =
      some ((2 * (second : Int) + 1) * 2 ^ scale, scale + 1)) :
    (halfPast second).value? = some ((second + 1 / 2 : ℝ) : EReal) := by
  rw [halfPast, Instant.value?, Number.Binary64.value?_of_toDyadic? h, Option.some.injEq,
    EReal.coe_eq_coe_iff]
  push_cast
  field_simp
  ring

theorem value?_halfPast_1000 : (halfPast 1000).value? = some (((1000 : ℕ) + 1 / 2 : ℝ) : EReal) :=
  value?_halfPast 42 (by decide +kernel)

theorem value?_halfPast_1600 : (halfPast 1600).value? = some (((1600 : ℕ) + 1 / 2 : ℝ) : EReal) :=
  value?_halfPast 41 (by decide +kernel)

/-- A service that issues one pair of codes for ten minutes. -/
def onePair : Service := { tenMinutes with codes := ⟨fun _ => "d", fun _ => "u"⟩ }

/-- What the first app sends. -/
def appParameters : Table String := .ofList [(clientIdParameter, "device-app-1")]

/-- Where it sends it. -/
def atHost : RequestContext := ⟨"https://host/oauth/device_authorize"⟩

/-- A store with an expired record of the pair. -/
def takenLongAgo : List TimedCall :=
  [⟨.whole 0, .insert (MemoryStore.sampleRecord "d" "u" 5)⟩]

/-- The app is issued the pair half a second after a whole one. -/
def appIssue : Logged (Except Failure DeviceResponse) × ServiceState :=
  onePair.authorize (halfPast 1000) appParameters (some (.client "device-app-1" true)) atHost
    ⟨.twoApps, .memory (MemoryStore.empty.run takenLongAgo), 0⟩

/-- The answer tells ten minutes. -/
def tenMinutesAnswer : DeviceResponse := ⟨"d", "u", "https://host/oauth/user_verify", 2, 600⟩

theorem appIssue_value : appIssue.1.value = .ok tenMinutesAnswer := by decide +kernel

theorem zero_le_halfPast_1000 : .whole 0 ≤ halfPast 1000 := by
  rw [Instant.le_def]
  refine ⟨_, rfl, _, value?_halfPast_1000, ?_⟩
  rw [EReal.coe_le_coe_iff]
  norm_num

theorem halfPast_1000_le_whole {n : Int} (h : 1001 ≤ n) : halfPast 1000 ≤ .whole n := by
  rw [Instant.le_def]
  refine ⟨_, value?_halfPast_1000, _, rfl, ?_⟩
  rw [EReal.coe_le_coe_iff]
  have hn : (1001 : ℝ) ≤ n := by exact_mod_cast h
  norm_num
  linarith

/-- The pair is drawn again, the store is swept, and another device code is deleted. -/
def meanwhile : List (Instant × ServiceCall) :=
  [(.whole 1200, .authorize onePair.codes appParameters (some (.client "device-app-1" true)) atHost),
    (.whole 1400, .deleteExpired), (.whole 1500, .delete "other")]

theorem neverDecreases_meanwhile :
    NeverDecreases (halfPast 1000 :: meanwhile.map (·.1) ++ [.whole 1599]) := by
  have hself := (Instant.le_self_of_le (halfPast_1000_le_whole (le_refl 1001))).1
  constructor <;> simp [meanwhile, hself, halfPast_1000_le_whole]

/-- One second before the end of the ten minutes both codes lead to one record. -/
theorem found_until_expiry_meanwhile :
    Instant.whole 0 ≤ halfPast 1000 ∧ appIssue.1.value = .ok tenMinutesAnswer ∧
    NeverDecreases (halfPast 1000 :: meanwhile.map (·.1) ++ [.whole 1599]) ∧
    ∃ r, (onePair.run appIssue.2 meanwhile).issuance.store.getByDeviceCode (.whole 1599) "d" =
        .ok (some r) ∧
      (onePair.run appIssue.2 meanwhile).issuance.store.getByUserCode (.whole 1599) "u" =
        .ok (some r) := by
  have hothers : ∀ c ∈ meanwhile, ∀ code, c.2 = .delete code → code ≠ tenMinutesAnswer.deviceCode := by
    simp [meanwhile, tenMinutesAnswer]
  obtain ⟨_, second, r, _, _, _, hlater⟩ := found_until_expiry onePair takenLongAgo _
    (halfPast 1000) _ _ _ tenMinutesAnswer rfl zero_le_halfPast_1000 appIssue_value
  obtain ⟨hfound, _, hearly, _⟩ := hlater meanwhile (.whole 1599) neverDecreases_meanwhile hothers
  have hnow : (.whole 1599) ≤ Instant.whole (second + tenMinutesAnswer.expiresIn) := by
    refine hearly ⟨_, value?_halfPast_1000, _, rfl, ?_⟩
    rw [← EReal.coe_add, EReal.coe_le_coe_iff]
    norm_num [tenMinutesAnswer]
  exact ⟨zero_le_halfPast_1000, appIssue_value, neverDecreases_meanwhile, r,
    hfound.byDeviceCode.2 hnow, hfound.byUserCode.2 hnow⟩

/-- Just ten minutes after the issue neither code leads to the record any more: it expired at the
whole second before. -/
theorem cut_short :
    Instant.whole 0 ≤ halfPast 1000 ∧ appIssue.1.value = .ok tenMinutesAnswer ∧
    halfPast 1000 ≤ halfPast 1600 ∧
    (halfPast 1000).Within (halfPast 1600) tenMinutesAnswer.expiresIn ∧
    appIssue.2.issuance.store.getByDeviceCode (halfPast 1600) tenMinutesAnswer.deviceCode =
      .ok none ∧
    appIssue.2.issuance.store.getByUserCode (halfPast 1600) tenMinutesAnswer.userCode =
      .ok none := by
  refine ⟨zero_le_halfPast_1000, appIssue_value, ?_, ?_, by decide +kernel, by decide +kernel⟩
  · refine ⟨_, value?_halfPast_1000, _, value?_halfPast_1600, ?_⟩
    rw [EReal.coe_le_coe_iff]
    norm_num
  · refine ⟨_, value?_halfPast_1000, _, value?_halfPast_1600, ?_⟩
    rw [← EReal.coe_add, EReal.coe_le_coe_iff]
    norm_num [tenMinutesAnswer]

end Service

end DeviceGrant
