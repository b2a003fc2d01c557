import DeviceGrant.Proofs.Store.Keys
import Mathlib.Tactic.ByContra
set_option autoImplicit false

/-! # What commands and calls do to a key

Every command of the key-value service is described by what it does to one key: the value and the
seconds to live that stand there afterwards. From these follows what each operation of a shared
store does: a removal takes keys away with their seconds and leaves every other key as it was
(`KeyChange`), and an insert sets the two keys of its record, or none. Nothing here needs to know
how the keys of the store belong together, or that the prefix has no special characters. -/

namespace DeviceGrant

namespace KeyValueService

variable {s t u : KeyValueService} {key other : String}

/-! ## Commands -/

theorem contains_iff : s.values.contains key = true ↔ s.get? key ≠ none := by
  rw [Table.contains, Option.isSome_iff_ne_none]
  rfl

theorem get?_erase (s : KeyValueService) (key other : String) :
    (s.erase key).get? other = if other = key then none else s.get? other :=
  Table.get?_erase ..

theorem ttl_erase (s : KeyValueService) (key other : String) :
    (s.erase key).ttls.get? other = if other = key then none else s.ttls.get? other :=
  Table.get?_erase ..

theorem get?_set (s : KeyValueService) (key value other : String) :
    (s.set key value).get? other = if other = key then some value else s.get? other :=
  Table.get?_put ..

theorem get?_expire (s : KeyValueService) (key : String) (seconds : Int) (other : String) :
    (s.expire key seconds).get? other = s.get? other := by
  unfold expire
  split <;> rfl

theorem ttl_expire (seconds : Int) (hkey : s.get? key ≠ none) (other : String) :
    (s.expire key seconds).ttls.get? other =
      if other = key then some seconds else s.ttls.get? other := by
  rw [expire, if_pos (contains_iff.2 hkey)]
  exact Table.get?_put ..

/-! ## Removals -/

/-- What a removal may do to a key: nothing, or take it away with its seconds to live. -/
inductive KeyChange (s t : KeyValueService) (key : String) : Prop
  | kept (value : t.get? key = s.get? key) (ttl : t.ttls.get? key = s.ttls.get? key)
  | gone (value : t.get? key = none) (ttl : t.ttls.get? key = none)

theorem KeyChange.refl (s : KeyValueService) (key : String) : KeyChange s s key := .kept rfl rfl

theorem KeyChange.trans (h : KeyChange s t key) (h' : KeyChange t u key) : KeyChange s u key := by
  cases h' with
  | gone value ttl => exact .gone value ttl
  | kept value ttl =>
    cases h with
    | kept value' ttl' => exact .kept (value.trans value') (ttl.trans ttl')
    | gone value' ttl' => exact .gone (value.trans value') (ttl.trans ttl')

theorem KeyChange.erase (s : KeyValueService) (key other : String) :
    KeyChange s (s.erase key) other := by
  by_cases h : other = key
  · exact .gone (by rw [get?_erase, if_pos h]) (by rw [ttl_erase, if_pos h])
  · exact .kept (by rw [get?_erase, if_neg h]) (by rw [ttl_erase, if_neg h])

/-- A key that has been removed was there with that value before, unless it is still there. -/
theorem KeyChange.get?_eq_some (h : KeyChange s t key) {value : String}
    (hvalue : t.get? key = some value) :
    s.get? key = some value ∧ t.ttls.get? key = s.ttls.get? key := by
  cases h with
  | kept hkept ttl => exact ⟨hkept ▸ hvalue, ttl⟩
  | gone hgone ttl =>
    rw [hgone] at hvalue
    cases hvalue

theorem delete_snd (s : KeyValueService) (keys : List String) :
    (s.delete keys).2 = keys.foldl erase s := by
  induction keys generalizing s with
  | nil => rfl
  | cons key keys ih => exact ih (s.erase key)

theorem delete_fst_pos (keys : List String) (hkey : s.get? key ≠ none) :
    0 < (s.delete (key :: keys)).1 := by
  change 0 < ((s.erase key).delete keys).1 + (if s.values.contains key then 1 else 0)
  rw [if_pos (contains_iff.2 hkey)]
  omega

theorem failure_delete (s : KeyValueService) (keys : List String) :
    (s.delete keys).2.failure = s.failure := by
  rw [delete_snd]
  induction keys generalizing s with
  | nil => rfl
  | cons key keys ih => exact ih (s.erase key)

theorem KeyChange.delete (s : KeyValueService) (keys : List String) (other : String) :
    KeyChange s (s.delete keys).2 other := by
  rw [delete_snd]
  induction keys generalizing s with
  | nil => exact .refl s other
  | cons key keys ih => exact (KeyChange.erase s key other).trans (ih (s.erase key))

end KeyValueService

namespace SharedStore

open KeyValueService (KeyChange)

variable {s : SharedStore} {now : Instant} {r : DeviceRecord} {code : String}

/-- While the service fails there is no result. -/
theorem guarded_of_failure {α : Type} {m : String} (h : s.service.failure = some m)
    (command : Except Failure α) : s.guarded command = .error (.storeUnreachable m) := by
  rw [guarded, h]

theorem guarded_of_none {α : Type} (h : s.service.failure = none) (command : Except Failure α) :
    s.guarded command = command := by
  rw [guarded, h]

/-! ## Inserts -/

/-- The two keys of a record. -/
def IsKeyOf (s : SharedStore) (r : DeviceRecord) (key : String) : Prop :=
  key = s.deviceKey r.deviceCode ∨ key = s.userKey r.userCode

instance (key : String) : Decidable (s.IsKeyOf r key) :=
  inferInstanceAs (Decidable (_ ∨ _))

/-- Neither key of a record is there. -/
def Free (s : SharedStore) (r : DeviceRecord) : Prop :=
  s.service.get? (s.deviceKey r.deviceCode) = none ∧ s.service.get? (s.userKey r.userCode) = none

theorem setAllIfAbsent_of_free (h : s.Free r) :
    s.service.setAllIfAbsent (s.keysOf r) =
      (true, (s.service.set (s.deviceKey r.deviceCode) r.encode).set (s.userKey r.userCode)
        r.deviceCode) := by
  have hany : ((s.keysOf r).any fun e => s.service.values.contains e.1) = false := by
    have hdevice := mt KeyValueService.contains_iff.1 (not_not_intro h.1)
    have huser := mt KeyValueService.contains_iff.1 (not_not_intro h.2)
    simp_all [keysOf]
  rw [KeyValueService.setAllIfAbsent, hany]
  rfl

theorem insertIfAbsent_of_not_free (now : Instant) (hup : s.service.failure = none) (h : ¬ s.Free r) :
    (s.insertIfAbsent now r).1.value = .ok false ∧ (s.insertIfAbsent now r).2 = s := by
  have hany : ((s.keysOf r).any fun e => s.service.values.contains e.1) = true := by
    by_contra hnone
    refine h ⟨?_, ?_⟩ <;> by_contra hkey <;>
      exact hnone (by simp [keysOf, KeyValueService.contains_iff.2 hkey])
  rw [insertIfAbsent, hup, KeyValueService.setAllIfAbsent, hany]
  exact ⟨rfl, rfl⟩

/-- What an insert leaves that sets the two keys of its record: their values, and the seconds to
live where these can be computed. -/
structure Written (s t : SharedStore) (now : Instant) (r : DeviceRecord) : Prop where
  keyPrefix : t.keyPrefix = s.keyPrefix
  failure : t.service.failure = none
  value : ∀ key, t.service.get? key =
    if key = s.userKey r.userCode then some r.deviceCode
    else if key = s.deviceKey r.deviceCode then some r.encode
    else s.service.get? key
  ttl : ∀ key, t.service.ttls.get? key =
    if s.IsKeyOf r key then (secondsToLive now r).toOption.or (s.service.ttls.get? key)
    else s.service.ttls.get? key

/-- The two keys are set before it is known whether the seconds to live can be computed; where
they cannot, the insert fails and the keys stay. -/
theorem insertIfAbsent_of_free (now : Instant) (hup : s.service.failure = none) (h : s.Free r) :
    (s.insertIfAbsent now r).1.value = (secondsToLive now r).map (fun _ => true) ∧
      s.Written (s.insertIfAbsent now r).2 now r := by
  have hget : ∀ key, ((s.service.set (s.deviceKey r.deviceCode) r.encode).set
      (s.userKey r.userCode) r.deviceCode).get? key =
      if key = s.userKey r.userCode then some r.deviceCode
      else if key = s.deviceKey r.deviceCode then some r.encode
      else s.service.get? key := by
    intro key
    rw [KeyValueService.get?_set, KeyValueService.get?_set]
  rw [insertIfAbsent, hup, setAllIfAbsent_of_free h]
  cases httl : secondsToLive now r with
  | error f =>
    refine ⟨rfl, rfl, hup, hget, fun key => ?_⟩
    have hkept : (if s.IsKeyOf r key then
        (secondsToLive now r).toOption.or (s.service.ttls.get? key)
        else s.service.ttls.get? key) = s.service.ttls.get? key := by
      rw [httl]
      split <;> rfl
    exact hkept.symm
  | ok ttl =>
    refine ⟨rfl, rfl, ?_, fun key => ?_, fun key => ?_⟩
    · simp only [KeyValueService.expire]
      split <;> split <;> exact hup
    · dsimp only
      rw [KeyValueService.get?_expire, KeyValueService.get?_expire, hget]
    · dsimp only
      rw [httl, KeyValueService.ttl_expire, KeyValueService.ttl_expire]
      · by_cases huser : key = s.userKey r.userCode
        · simp [IsKeyOf, huser, Except.toOption]
        · by_cases hdevice : key = s.deviceKey r.deviceCode
          · simp [IsKeyOf, hdevice, Except.toOption]
          · simp only [IsKeyOf, huser, hdevice, or_self, ↓reduceIte]
            rfl
      · rw [hget, if_neg (deviceKey_ne_userKey _ _), if_pos rfl]
        simp
      · rw [KeyValueService.get?_expire, hget, if_pos rfl]
        simp

/-! ## Removals -/

/-- A store after nothing but removals. -/
structure Shrunk (s t : SharedStore) : Prop where
  keyPrefix : t.keyPrefix = s.keyPrefix
  failure : t.service.failure = s.service.failure
  change : ∀ key, KeyChange s.service t.service key

theorem Shrunk.refl (s : SharedStore) : s.Shrunk s := ⟨rfl, rfl, fun key => .refl _ key⟩

theorem Shrunk.trans {t u : SharedStore} (h : s.Shrunk t) (h' : t.Shrunk u) : s.Shrunk u where
  keyPrefix := h'.keyPrefix.trans h.keyPrefix
  failure := h'.failure.trans h.failure
  change key := (h.change key).trans (h'.change key)

theorem shrunk_delete (s : SharedStore) (code : String) : s.Shrunk (s.delete code).2 := by
  unfold delete
  split
  · exact .refl s
  · exact .refl s
  · exact ⟨rfl, KeyValueService.failure_delete .., fun key => .delete ..⟩

theorem shrunk_sweepKey (s : SharedStore) (now : Instant) (key : String) :
    s.Shrunk (s.sweepKey now key).2 := by
  unfold sweepKey
  split
  · exact .refl s
  · split
    · exact .refl s
    · split
      · dsimp only
        split
        · exact ⟨rfl, KeyValueService.failure_delete ..,
            fun other => (KeyChange.erase ..).trans (.delete ..)⟩
        · exact ⟨rfl, KeyValueService.failure_delete .., fun other => .delete ..⟩
      · exact .refl s

theorem shrunk_sweepKeys (s : SharedStore) (now : Instant) (keys : List String) (removed : Nat) :
    s.Shrunk (s.sweepKeys now keys removed).2 := by
  induction keys generalizing s removed with
  | nil => exact .refl s
  | cons key keys ih =>
    have hfirst := s.shrunk_sweepKey now key
    unfold sweepKeys
    split
    · next heq =>
      rw [heq] at hfirst
      exact hfirst
    · next heq =>
      rw [heq] at hfirst
      exact hfirst.trans (ih ..)

theorem shrunk_deleteExpired (s : SharedStore) (now : Instant) :
    s.Shrunk (s.deleteExpired now).2 := by
  unfold deleteExpired
  split
  · exact .refl s
  · have hsweep := s.shrunk_sweepKeys now (s.service.scan (s.deviceKeyPrefix ++ "*")) 0
    split
    · next heq =>
      rw [heq] at hsweep
      exact hsweep
    · next heq =>
      rw [heq] at hsweep
      exact hsweep

/-- An insert either sets the two keys of its record, both absent before, or changes nothing. -/
theorem insertIfAbsent_cases (s : SharedStore) (now : Instant) (r : DeviceRecord) :
    (s.insertIfAbsent now r).2 = s ∨ s.Free r ∧ s.Written (s.insertIfAbsent now r).2 now r := by
  cases hfailure : s.service.failure with
  | some m =>
    left
    rw [insertIfAbsent, hfailure]
  | none =>
    by_cases hfree : s.Free r
    · exact .inr ⟨hfree, (insertIfAbsent_of_free now hfailure hfree).2⟩
    · exact .inl (insertIfAbsent_of_not_free now hfailure hfree).2

end SharedStore

end DeviceGrant
