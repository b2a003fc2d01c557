import DeviceGrant.Settings
import DeviceGrant.Proofs.Registry
set_option autoImplicit false

/-! # Settings that were accepted

Wherever the value of a setting comes from, it passes the check of that setting, and a default
does without the check only because it would pass. So the lifetime of records, the polling
interval and the number of attempts are above zero (`Settings.countsPositive_of_load`). -/

namespace DeviceGrant

theorem Check.optional_eq_ok {α : Type} {name : String} {default : α}
    {check : Value → Checked α} {es : List (Value × Value)} {a : α} :
    Check.optional name default check es = .ok a ↔
      Value.field? name es = none ∧ default = a ∨
        ∃ v, Value.field? name es = some v ∧ check v = .ok a := by
  unfold Check.optional
  rw [Checked.under_eq_ok]
  cases Value.field? name es <;> simp

namespace Settings

variable {es : List (Value × Value)} {s : Settings}

theorem pos_of_checkPositive {v : Value} {n : Int} (h : checkPositive v = .ok n) : 0 < n := by
  unfold checkPositive at h
  rcases hint : Check.int v with e | k <;> rw [hint] at h
  · cases h
  · by_cases hk : 0 < k
    · have hn : k = n := by simpa [bind, Except.bind, pure, Except.pure, hk] using h
      rwa [← hn]
    · simp [bind, Except.bind, hk, Checked.issue] at h

/-- A count is above zero if its default is. -/
theorem pos_of_optional {name : String} {default n : Int} (hdefault : 0 < default)
    (h : Check.optional name default checkPositive es = .ok n) : 0 < n := by
  rcases Check.optional_eq_ok.1 h with ⟨_, rfl⟩ | ⟨v, _, hv⟩
  · exact hdefault
  · exact pos_of_checkPositive hv

/-- The three counts among the settings are above zero. -/
structure CountsPositive (s : Settings) : Prop where
  expirySeconds : 0 < s.expirySeconds
  pollInterval : 0 < s.pollInterval
  maxAttempts : 0 < s.maxAttempts

theorem countsPositive_of_check (h : check es = .ok s) : s.CountsPositive := by
  unfold check at h
  obtain ⟨f, _, hf, _, rfl⟩ := Checked.combine_eq_ok.1 h
  obtain ⟨g, _, hg, _, rfl⟩ := Checked.combine_eq_ok.1 hf
  obtain ⟨i, _, hi, hcounts, rfl⟩ := Checked.combine_eq_ok.1 hg
  obtain ⟨j, _, hj, _, rfl⟩ := Checked.combine_eq_ok.1 hi
  obtain ⟨_, _, _, htimes, rfl⟩ := Checked.combine_eq_ok.1 hj
  obtain ⟨expiry, poll, hexpiry, hpoll, rfl⟩ := Checked.combine_eq_ok.1 htimes
  obtain ⟨attempts, _, hattempts, _, rfl⟩ := Checked.combine_eq_ok.1 hcounts
  exact ⟨pos_of_optional (by decide) hexpiry, pos_of_optional (by decide) hpoll,
    pos_of_optional (by decide) hattempts⟩

theorem countsPositive_of_load {values : List (Value × Value)} {env : List (String × String)}
    {file : Option String} (h : load values env file = .ok s) : s.CountsPositive := by
  unfold load at h
  exact countsPositive_of_check (Checked.refuseAs_eq_ok.1 h)

/-- The settings of a deployment that says nothing about itself. -/
def defaults : Settings where
  apiPrefix := ""
  corsOrigins := "*"
  clientsConfigPath := none
  expirySeconds := 600
  pollInterval := 2
  verificationPath := "user_verify"
  maxAttempts := 10
  sweepIntervalSeconds := 60
  store := .memory
  redisUrl := "redis://localhost:6379/1"
  redisKeyPrefix := "device_auth"
  logLevel := "INFO"
  logFormat := defaultLogFormat

theorem load_nothing : load [] [] none = .ok defaults := rfl

end Settings

end DeviceGrant
