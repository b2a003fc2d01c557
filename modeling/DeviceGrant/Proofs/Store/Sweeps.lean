import DeviceGrant.Proofs.Store.History
import DeviceGrant.Sweeper
set_option autoImplicit false

/-! # Sweeps compose

A sweep lists the codes of the records that have expired and removes one after the other, each user
code under the condition that it still leads to the record removed. While the tables are inverse,
removing a list of codes takes the entries of these codes out of both tables and keeps the others
in their places (`entries_devices_foldl_remove`, `Paired.entries_users_foldl_remove`), so only
which codes are removed matters, not in which order or in how many sweeps.

A record that has expired stays expired. So a sweep after an earlier one removes what has expired
in between, and both together what the later one alone would have removed
(`Paired.deleteExpired_deleteExpired`). From this step: any number of sweeps comes to the last of
them, for a caller as for the sweeper (`sweeps_compose`). -/

namespace DeviceGrant

/-- A record that has expired stays expired. -/
theorem DeviceRecord.isExpired_of_le {r : DeviceRecord} {now later : Instant} (hle : now ≤ later)
    (h : r.isExpired now = true) : r.isExpired later = true := by
  by_contra hlater
  have hlive : r.isLive later = true := by simpa [isLive] using hlater
  have hnow := isLive_of_le hle hlive
  simp [isLive, h] at hnow

namespace MemoryStore

variable {s t : MemoryStore} {now later : Instant} {r : DeviceRecord} {code : String}
  {codes codes' : List String}

/-! ## Removing codes -/

theorem eq_of_entries (hdevices : s.devices.entries = t.devices.entries)
    (husers : s.users.entries = t.users.entries) : s = t := by
  obtain ⟨devices, users⟩ := s
  obtain ⟨devices', users'⟩ := t
  rw [mk.injEq]
  exact ⟨Table.ext_entries hdevices, Table.ext_entries husers⟩

theorem entries_devices_remove (s : MemoryStore) (code : String) :
    (s.remove code).devices.entries = s.devices.entries.filter fun e => e.1 ≠ code := by
  cases hr : s.devices.get? code with
  | some r =>
    rw [remove_of_some hr]
    rfl
  | none =>
    rw [remove_of_none hr]
    symm
    rw [List.filter_eq_self]
    rintro ⟨other, r⟩ he
    rw [Table.mem_entries_iff] at he
    have hne : other ≠ code := by
      rintro rfl
      rw [hr] at he
      cases he
    simpa using hne

/-- The user code that leads to the code is taken out, and no other. -/
theorem Paired.entries_users_remove (h : s.Paired) (code : String) :
    (s.remove code).users.entries = s.users.entries.filter fun e => e.2 ≠ code := by
  cases hr : s.devices.get? code with
  | some r =>
    rw [remove_of_some hr, if_pos (h.device code r hr).2]
    refine List.filter_congr ?_
    rintro ⟨u, owner⟩ he
    rw [Table.mem_entries_iff] at he
    -- The user code of the record is the one that leads to its device code.
    have hiff : u = r.userCode ↔ owner = code := by
      rw [eq_comm, ← h.leads_iff hr, he, Option.some.injEq]
    simp [hiff]
  | none =>
    rw [remove_of_none hr]
    symm
    rw [List.filter_eq_self]
    rintro ⟨u, owner⟩ he
    rw [Table.mem_entries_iff] at he
    have hne : owner ≠ code := by
      rintro rfl
      obtain ⟨r, hr', _⟩ := h.user u owner he
      rw [hr] at hr'
      cases hr'
    simpa using hne

theorem entries_devices_foldl_remove (s : MemoryStore) (codes : List String) :
    (codes.foldl remove s).devices.entries = s.devices.entries.filter fun e => e.1 ∉ codes := by
  induction codes generalizing s with
  | nil => simp
  | cons code codes ih =>
    rw [List.foldl_cons, ih, entries_devices_remove, List.filter_filter]
    refine List.filter_congr fun e _ => ?_
    by_cases hcode : e.1 = code <;> simp [hcode]

theorem Paired.entries_users_foldl_remove (h : s.Paired) (codes : List String) :
    (codes.foldl MemoryStore.remove s).users.entries =
      s.users.entries.filter fun e => e.2 ∉ codes := by
  induction codes generalizing s with
  | nil => simp
  | cons code codes ih =>
    rw [List.foldl_cons, ih (h.remove code), h.entries_users_remove, List.filter_filter]
    refine List.filter_congr fun e _ => ?_
    by_cases hcode : e.2 = code <;> simp [hcode]

/-- What is left does not depend on the order in which codes are removed, nor on how often. -/
theorem Paired.foldl_remove_congr (h : s.Paired) (hcodes : ∀ code, code ∈ codes ↔ code ∈ codes') :
    codes.foldl MemoryStore.remove s = codes'.foldl MemoryStore.remove s := by
  apply eq_of_entries
  · simp only [entries_devices_foldl_remove, hcodes]
  · simp only [h.entries_users_foldl_remove, hcodes]

/-! ## One sweep -/

/-- A sweep counts the records that have expired. -/
theorem deleteExpired_fst (s : MemoryStore) (now : Instant) :
    (s.deleteExpired now).1 = s.devices.entries.countP fun e => e.2.isExpired now := by
  show (s.expiredCodes now).length = _
  rw [expiredCodes, List.length_map, List.countP_eq_length_filter]

/-- A sweep leaves the records that are live, in their order. -/
theorem entries_devices_deleteExpired (s : MemoryStore) (now : Instant) :
    (s.deleteExpired now).2.devices.entries =
      s.devices.entries.filter fun e => e.2.isLive now := by
  show ((s.expiredCodes now).foldl remove s).devices.entries = _
  rw [entries_devices_foldl_remove]
  refine List.filter_congr ?_
  rintro ⟨code, r⟩ he
  rw [Table.mem_entries_iff] at he
  have hexpired : code ∈ s.expiredCodes now ↔ r.isExpired now = true := by
    rw [mem_expiredCodes, he]
    simp
  simp [hexpired, DeviceRecord.isLive]

/-- What a sweep makes of a store: both entries of a record that has expired are gone, both entries
of every other record are kept, and there is nothing else. -/
structure SweptTo (s t : MemoryStore) (now : Instant) : Prop where
  expired : ∀ code r, s.devices.get? code = some r → r.isExpired now = true →
    t.devices.get? code = none ∧ t.users.get? r.userCode = none
  live : ∀ code r, s.devices.get? code = some r → r.isExpired now = false →
    t.devices.get? code = some r ∧ t.users.get? r.userCode = some code
  devices : ∀ code r, t.devices.get? code = some r → s.devices.get? code = some r
  users : ∀ u code, t.users.get? u = some code → s.users.get? u = some code

theorem Paired.sweptTo (h : s.Paired) (now : Instant) : s.SweptTo (s.deleteExpired now).2 now := by
  have husers : ∀ u, (s.deleteExpired now).2.users.get? u =
      (s.users.get? u).filter fun code => code ∉ s.expiredCodes now :=
    h.get?_users_foldl_remove (s.expiredCodes now)
  constructor
  · intro code r hr hexpired
    have hcode : code ∈ s.expiredCodes now := mem_expiredCodes.2 ⟨r, hr, hexpired⟩
    constructor
    · rw [get?_devices_deleteExpired, getByDeviceCode, hr]
      simp [live?, Option.filter, DeviceRecord.isLive, hexpired]
    · rw [husers, (h.device code r hr).2]
      simp [Option.filter, hcode]
  · intro code r hr hlive
    have hcode : code ∉ s.expiredCodes now := by
      intro hmem
      obtain ⟨r', hr', hexpired⟩ := mem_expiredCodes.1 hmem
      rw [hr] at hr'
      cases hr'
      rw [hlive] at hexpired
      cases hexpired
    constructor
    · rw [get?_devices_deleteExpired, getByDeviceCode_eq_some]
      exact ⟨hr, by simp [DeviceRecord.isLive, hlive]⟩
    · rw [husers, (h.device code r hr).2]
      simp [Option.filter, hcode]
  · intro code r hr
    rw [get?_devices_deleteExpired] at hr
    exact (getByDeviceCode_eq_some.1 hr).1
  · intro u code hu
    rw [husers, Option.filter_eq_some_iff] at hu
    exact hu.1

/-! ## Two sweeps -/

theorem mem_expiredCodes_deleteExpired :
    code ∈ (s.deleteExpired now).2.expiredCodes later ↔
      ∃ r, s.devices.get? code = some r ∧ r.isLive now = true ∧ r.isExpired later = true := by
  simp only [mem_expiredCodes, get?_devices_deleteExpired, getByDeviceCode_eq_some, and_assoc]

/-- A sweep after an earlier one leaves what it would have left without it, and both together count
what it would have counted. -/
theorem Paired.deleteExpired_deleteExpired (h : s.Paired) (hle : now ≤ later) :
    ((s.deleteExpired now).2.deleteExpired later).2 = (s.deleteExpired later).2 ∧
      (s.deleteExpired now).1 + ((s.deleteExpired now).2.deleteExpired later).1 =
        (s.deleteExpired later).1 := by
  constructor
  · -- Both ways the same codes are removed: those expired at the earlier reading, and those since.
    have hcodes : ∀ code, code ∈ s.expiredCodes now ++ (s.deleteExpired now).2.expiredCodes later ↔
        code ∈ s.expiredCodes later := by
      intro code
      rw [List.mem_append, mem_expiredCodes, mem_expiredCodes_deleteExpired, mem_expiredCodes]
      constructor
      · rintro (⟨r, hr, hexpired⟩ | ⟨r, hr, _, hexpired⟩)
        · exact ⟨r, hr, DeviceRecord.isExpired_of_le hle hexpired⟩
        · exact ⟨r, hr, hexpired⟩
      · rintro ⟨r, hr, hexpired⟩
        cases hnow : r.isExpired now with
        | true => exact .inl ⟨r, hr, hnow⟩
        | false => exact .inr ⟨r, hr, by simp [DeviceRecord.isLive, hnow], hexpired⟩
    have hboth := h.foldl_remove_congr hcodes
    rw [List.foldl_append] at hboth
    exact hboth
  · rw [deleteExpired_fst, deleteExpired_fst, deleteExpired_fst, entries_devices_deleteExpired,
      List.countP_eq_countP_filter_add s.devices.entries (fun e => e.2.isExpired later)
        fun e => e.2.isExpired now]
    have hall : (s.devices.entries.filter fun e => e.2.isExpired now).countP
        (fun e => e.2.isExpired later) = s.devices.entries.countP fun e => e.2.isExpired now := by
      rw [List.countP_eq_length_filter (l := s.devices.entries), List.countP_eq_length]
      intro e he
      exact DeviceRecord.isExpired_of_le hle (List.mem_filter.1 he).2
    rw [hall]
    rfl

/-! ## Any number of sweeps -/

/-- A sweep at each of some readings: what they count, and the store after them. -/
def sweeps (s : MemoryStore) : List Instant → List Nat × MemoryStore
  | [] => ([], s)
  | now :: later =>
    let first := s.deleteExpired now
    let others := first.2.sweeps later
    (first.1 :: others.1, others.2)

/-- Sweeps at readings that never decrease leave what the last one alone leaves, and count together
what it alone counts. -/
theorem Paired.sweeps_eq (h : s.Paired) (earlier : List Instant) {last : Instant}
    (hearlier : ∀ now ∈ earlier, now ≤ last) :
    (s.sweeps (earlier ++ [last])).2 = (s.deleteExpired last).2 ∧
      (s.sweeps (earlier ++ [last])).1.sum = (s.deleteExpired last).1 := by
  induction earlier generalizing s with
  | nil => simp [sweeps]
  | cons now earlier ih =>
    obtain ⟨hstore, hcount⟩ := ih (h.deleteExpired now)
      fun t ht => hearlier t (List.mem_cons_of_mem now ht)
    obtain ⟨hstore', hcount'⟩ := h.deleteExpired_deleteExpired (hearlier now (by simp))
    rw [List.cons_append, sweeps]
    constructor
    · exact hstore.trans hstore'
    · rw [List.sum_cons, hcount, hcount']

end MemoryStore

/-! ## The sweeper -/

namespace Sweeper

/-- The sweeps of a sweeper that finds the clock at the given readings: what they count, and the
store after them. -/
def sweepEach : List Instant → Store → List Nat × Store
  | [], store => ([], store)
  | now :: later, store =>
    let first := sweep now store
    let others := sweepEach later first.2
    (first.1.value :: others.1, others.2)

/-- The readings at the ends of a number of intervals. -/
def ticks (interval : Instant) : Nat → Instant → List Instant
  | 0, _ => []
  | n + 1, now => now.advance interval :: ticks interval n (now.advance interval)

theorem rounds_eq (interval : Instant) (n : Nat) (now : Instant) (store : Store) :
    (rounds interval n now store).1.value = (sweepEach (ticks interval n now) store).1 ∧
      (rounds interval n now store).2.2 = (sweepEach (ticks interval n now) store).2 := by
  induction n generalizing now store with
  | zero => exact ⟨rfl, rfl⟩
  | succ n ih =>
    obtain ⟨hcounts, hstore⟩ := ih (now.advance interval) (sweep (now.advance interval) store).2
    exact ⟨congrArg (_ :: ·) hcounts, hstore⟩

/-- A store in memory is swept by the sweeper as by any caller. -/
theorem sweepEach_memory (readings : List Instant) (s : MemoryStore) :
    sweepEach readings (.memory s) = ((s.sweeps readings).1, .memory (s.sweeps readings).2) := by
  induction readings generalizing s with
  | nil => rfl
  | cons now later ih =>
    have hfirst : sweep now (.memory s) =
        (⟨(s.deleteExpired now).1, if (s.deleteExpired now).1 = 0 then []
          else [.memoryCleaned (s.deleteExpired now).1]⟩, .memory (s.deleteExpired now).2) := rfl
    rw [sweepEach, hfirst, ih]
    rfl

end Sweeper

namespace MemoryStore

/-- Sweeps of a store that was empty at first and has had any calls since, at one or more readings
that never decrease: they leave exactly the store that a single sweep at the last reading leaves,
and count together what that sweep counts, which is the number of stored records that have expired
by then. Both entries of these records are gone, and both entries of the others are kept. The
sweeps of the sweeper at these readings do the same, and so does each number of its rounds that
ends at them. -/
theorem sweeps_compose (calls : List TimedCall) (earlier : List Instant) (last : Instant)
    (hclock : NeverDecreases (earlier ++ [last])) :
    let s := empty.run calls
    let swept := s.sweeps (earlier ++ [last])
    swept.2 = (s.deleteExpired last).2 ∧
    swept.1.sum = (s.deleteExpired last).1 ∧
    (s.deleteExpired last).1 = s.devices.entries.countP (fun e => e.2.isExpired last) ∧
    s.SweptTo swept.2 last ∧
    Sweeper.sweepEach (earlier ++ [last]) (.memory s) = (swept.1, .memory swept.2) ∧
    ∀ interval n start, Sweeper.ticks interval n start = earlier ++ [last] →
      (Sweeper.rounds interval n start (.memory s)).1.value = swept.1 ∧
        (Sweeper.rounds interval n start (.memory s)).2.2 = .memory swept.2 := by
  intro s swept
  have hpaired : s.Paired := paired_empty.run calls
  have hearlier : ∀ now ∈ earlier, now ≤ last := by
    intro now hnow
    exact (List.pairwise_append.1 hclock.ascending).2.2 now hnow last (by simp)
  obtain ⟨hstore, hcount⟩ := hpaired.sweeps_eq earlier hearlier
  have hsweeper : Sweeper.sweepEach (earlier ++ [last]) (.memory s) =
      (swept.1, .memory swept.2) := Sweeper.sweepEach_memory ..
  refine ⟨hstore, hcount, s.deleteExpired_fst last, ?_, hsweeper, ?_⟩
  · show s.SweptTo (s.sweeps (earlier ++ [last])).2 last
    rw [hstore]
    exact hpaired.sweptTo last
  · intro interval n start hticks
    obtain ⟨hcounts, hafter⟩ := Sweeper.rounds_eq interval n start (.memory s)
    rw [hticks, hsweeper] at hcounts hafter
    exact ⟨hcounts, hafter⟩

/-- Records that expire one after the other, the last of them under the user code of the first. -/
def lapsing : List TimedCall :=
  [⟨.whole 0, .insert (sampleRecord "d1" "u1" 5)⟩, ⟨.whole 0, .insert (sampleRecord "d2" "u2" 7)⟩,
    ⟨.whole 0, .insert (sampleRecord "d3" "u3" 12)⟩,
    ⟨.whole 6, .insert (sampleRecord "d4" "u1" 8)⟩]

/-- Two rounds of the sweeper find one expired record each, where a single late sweep finds two. -/
theorem sweeps_compose_lapsing :
    NeverDecreases [.whole 8, .whole 10] ∧
      (Sweeper.rounds (.whole 2) 2 (.whole 6) (.memory (empty.run lapsing))).1.value = [1, 1] ∧
      ((empty.run lapsing).deleteExpired (.whole 10)).1 = 2 ∧
      (Sweeper.rounds (.whole 2) 2 (.whole 6) (.memory (empty.run lapsing))).2.2 =
        .memory ((empty.run lapsing).deleteExpired (.whole 10)).2 ∧
      ((empty.run lapsing).deleteExpired (.whole 10)).2.devices.names = ["d3"] := by
  have hclock : NeverDecreases ([.whole 8] ++ [.whole 10]) := by
    constructor <;> simp
  obtain ⟨hstore, hcount, _, _, _, hrounds⟩ := sweeps_compose lapsing [.whole 8] (.whole 10) hclock
  obtain ⟨hcounts, hafter⟩ := hrounds (.whole 2) 2 (.whole 6) rfl
  have hfound : ((empty.run lapsing).sweeps ([.whole 8] ++ [.whole 10])).1 = [1, 1] := by
    decide +kernel
  rw [hfound] at hcount hcounts
  rw [hstore] at hafter
  exact ⟨hclock, hcounts, hcount.symm, hafter, by decide +kernel⟩

end MemoryStore

end DeviceGrant
