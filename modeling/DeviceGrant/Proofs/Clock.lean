import DeviceGrant.Record
import Mathlib.Data.EReal.Operations
set_option autoImplicit false

/-! # The order of clock readings

Readings are ordered by the numbers that they show: a whole number of seconds, or the exact value
of a double on the extended real line. A double that is not a number comes before and after no
reading, itself included, so a clock that never decreases does not show it. The program itself
compares a reading with whole seconds only (`Instant.isAfter`), and `isAfter_eq_false_iff` says
that this comparison is the order. -/

namespace DeviceGrant

namespace Number.Binary64

/-- The value of a double on the extended real line. -/
noncomputable def value? : Binary64 → Option EReal
  | nan => none
  | infinite negative => some (if negative then ⊥ else ⊤)
  | x => x.toDyadic?.map fun (num, scale) => (((num : ℝ) / 2 ^ scale : ℝ) : EReal)

theorem isAbove_iff {x : Binary64} {v : EReal} (h : x.value? = some v) (n : Int) :
    x.isAbove n = true ↔ ((n : ℝ) : EReal) < v := by
  cases x with
  | nan => simp [value?] at h
  | infinite negative =>
    simp only [value?, Option.some.injEq] at h
    subst h
    cases negative
    · simp [isAbove, EReal.coe_lt_top]
    · simp [isAbove]
  | finite negative m e =>
    simp only [value?, toDyadic?, Option.map_some, Option.some.injEq] at h
    subst h
    simp only [isAbove, toDyadic?, decide_eq_true_eq, EReal.coe_lt_coe_iff]
    -- Without the denominator this is the whole-number comparison of `isAbove`.
    rw [lt_div_iff₀ (by positivity)]
    exact_mod_cast Iff.rfl

/-- A double does not lie above any second behind its whole part, on whichever side of zero. -/
theorem isAbove_of_truncate? {x : Binary64} {n k : Int} (h : x.truncate? = some n) (hk : 0 < k) :
    x.isAbove (n + k) = false := by
  obtain ⟨⟨num, scale⟩, hdyadic, rfl⟩ := Option.map_eq_some_iff.1 h
  have hscale : (0 : Int) < 2 ^ scale := by positivity
  have hnum : num ≤ (num.tdiv (2 ^ scale) + k) * 2 ^ scale := by
    calc num ≤ (num.tdiv (2 ^ scale) + 1) * 2 ^ scale :=
          (Int.lt_tdiv_add_one_mul_self num hscale).le
      _ ≤ (num.tdiv (2 ^ scale) + k) * 2 ^ scale := by gcongr; omega
  cases x with
  | nan => cases hdyadic
  | infinite negative => cases hdyadic
  | finite negative m e =>
    simp only [isAbove, hdyadic, decide_eq_false_iff_not, not_lt]
    exact hnum

end Number.Binary64

namespace Instant

variable {a b c : Instant}

theorem truncate?_of_truncate {x : Number.Binary64} {second : Int}
    (h : (fractional x).truncate = .ok second) : x.truncate? = some second := by
  simp only [truncate, wholePart] at h
  split at h
  · next n hn => rw [hn, Except.ok.inj h]
  · cases h

/-- A reading is not after a second that lies behind its whole second. -/
theorem isAfter_of_truncate {second k : Int} (h : a.truncate = .ok second) (hk : 0 < k) :
    a.isAfter (second + k) = false := by
  cases a with
  | whole s =>
    obtain rfl : s = second := Except.ok.inj h
    simp only [isAfter_whole, decide_eq_false_iff_not]
    omega
  | fractional x => exact Number.Binary64.isAbove_of_truncate? (truncate?_of_truncate h) hk

/-- The number that a reading shows. -/
noncomputable def value? : Instant → Option EReal
  | whole s => some ((s : ℝ) : EReal)
  | fractional x => x.value?

instance : LE Instant := ⟨fun a b => ∃ x ∈ a.value?, ∃ y ∈ b.value?, x ≤ y⟩

theorem le_def : a ≤ b ↔ ∃ x ∈ a.value?, ∃ y ∈ b.value?, x ≤ y := Iff.rfl

@[simp] theorem whole_le_whole (m n : Int) : whole m ≤ whole n ↔ m ≤ n := by
  simp [le_def, value?]

theorem le_trans (hab : a ≤ b) (hbc : b ≤ c) : a ≤ c := by
  obtain ⟨x, hx, y, hy, hxy⟩ := hab
  obtain ⟨y', hy', z, hz, hyz⟩ := hbc
  obtain rfl : y = y' := Option.mem_unique hy hy'
  exact ⟨x, hx, z, hz, hxy.trans hyz⟩

theorem le_self_of_le (hab : a ≤ b) : a ≤ a ∧ b ≤ b := by
  obtain ⟨x, hx, y, hy, _⟩ := hab
  exact ⟨⟨x, hx, x, hx, le_rfl⟩, ⟨y, hy, y, hy, le_rfl⟩⟩

/-- A reading that shows a number lies after a second exactly if it is not before or at it. -/
theorem isAfter_eq_false_iff (ha : a ≤ a) (n : Int) : a.isAfter n = false ↔ a ≤ whole n := by
  obtain ⟨x, hx, _⟩ := ha
  have hafter : a.isAfter n = true ↔ ((n : ℝ) : EReal) < x := by
    cases a with
    | whole s =>
      obtain rfl : ((s : ℝ) : EReal) = x := by simpa [value?] using hx
      simp
    | fractional d => exact Number.Binary64.isAbove_iff hx n
  have hle : a ≤ whole n ↔ x ≤ ((n : ℝ) : EReal) := by
    rw [le_def]
    constructor
    · rintro ⟨x', hx', y, hy, hxy⟩
      obtain rfl : x = x' := Option.mem_unique hx hx'
      obtain rfl : ((n : ℝ) : EReal) = y := by simpa [value?] using hy
      exact hxy
    · intro hxn
      exact ⟨x, hx, _, rfl, hxn⟩
  rw [← Bool.not_eq_true, hafter, hle, not_lt]

end Instant

/-! ## Records at later readings -/

namespace DeviceRecord

variable {r : DeviceRecord} {now later : Instant}

theorem isLive_iff (hnow : now ≤ now) : r.isLive now = true ↔ now ≤ .whole r.expiresAt := by
  rw [← Instant.isAfter_eq_false_iff hnow]
  simp [isLive, isExpired]

/-- A record that is live has been live since it was stored. -/
theorem isLive_of_le (hle : now ≤ later) (hlive : r.isLive later = true) :
    r.isLive now = true := by
  obtain ⟨hnow, hlater⟩ := Instant.le_self_of_le hle
  rw [isLive_iff hlater] at hlive
  rw [isLive_iff hnow]
  exact Instant.le_trans hle hlive

end DeviceRecord

/-! ## Clocks -/

/-- The readings of a clock that never decreases, in their order. -/
structure NeverDecreases (readings : List Instant) : Prop where
  numbers : ∀ t ∈ readings, t ≤ t
  ascending : readings.Pairwise (· ≤ ·)

namespace NeverDecreases

variable {earlier : List Instant} {now later : Instant}

theorem of_sublist {readings : List Instant} (h : NeverDecreases readings)
    (hsub : earlier.Sublist readings) : NeverDecreases earlier where
  numbers t ht := h.numbers t (hsub.subset ht)
  ascending := h.ascending.sublist hsub

theorem of_append {readings : List Instant} (h : NeverDecreases (earlier ++ readings)) :
    NeverDecreases earlier :=
  h.of_sublist (List.sublist_append_left ..)

/-- The last reading shows a number. -/
theorem last_le_self (h : NeverDecreases (earlier ++ [now])) : now ≤ now :=
  h.numbers now (by simp)

theorem le_of_last_two (h : NeverDecreases (earlier ++ [now] ++ [later])) : now ≤ later :=
  (List.pairwise_append.1 h.ascending).2.2 now (by simp) later (by simp)

end NeverDecreases

end DeviceGrant
