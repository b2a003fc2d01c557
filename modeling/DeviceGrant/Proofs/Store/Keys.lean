import DeviceGrant.Store.Shared
import Mathlib.Data.List.Basic
set_option autoImplicit false

/-! # The keys of a shared store

Every key of a device code differs from every key of a user code, and different codes have
different keys, whatever the prefix and the codes are. A sweep finds the keys of device codes by a
pattern; when the prefix holds no character that is special in patterns, it finds exactly them. -/

namespace DeviceGrant

/-! ## Patterns -/

namespace Text

/-- A character that stands for itself in a pattern, wherever it stands. -/
def IsLiteral (c : Char) : Prop := c ≠ '*' ∧ c ≠ '?' ∧ c ≠ '['

instance (c : Char) : Decidable (IsLiteral c) :=
  inferInstanceAs (Decidable (c ≠ '*' ∧ c ≠ '?' ∧ c ≠ '['))

namespace Glob

theorem partsUpTo_literals (fuel : Nat) (cs rest : List Char) (hcs : ∀ c ∈ cs, IsLiteral c)
    (hfuel : cs.length ≤ fuel) :
    partsUpTo fuel (cs ++ rest) = cs.map .literal ++ partsUpTo (fuel - cs.length) rest := by
  induction cs generalizing fuel with
  | nil => simp
  | cons c cs ih =>
    obtain ⟨fuel, rfl⟩ : ∃ n, fuel = n + 1 := ⟨fuel - 1, by simp at hfuel; omega⟩
    obtain ⟨hstar, hmark, hbracket⟩ := hcs c (by simp)
    rw [List.cons_append, partsUpTo, if_neg hstar, if_neg hmark, if_neg hbracket,
      ih fuel (fun d hd => hcs d (by simp [hd])) (by simpa using hfuel)]
    simp

/-- A star at the end fits whatever is left. -/
theorem matchParts_anything (cs : List Char) : matchParts [.anything] cs = true := by
  rw [matchParts]
  induction cs with
  | nil => rfl
  | cons c cs ih => rw [anySuffix, ih, Bool.or_true]

theorem matchParts_literals (start cs : List Char) :
    matchParts (start.map .literal ++ [.anything]) cs = true ↔ start <+: cs := by
  induction start generalizing cs with
  | nil =>
    rw [List.map_nil, List.nil_append, matchParts_anything]
    simp
  | cons a start ih =>
    rw [List.map_cons, List.cons_append]
    cases cs with
    | nil => simp [matchParts]
    | cons c cs =>
      rw [matchParts, Bool.and_eq_true, ih cs, List.cons_prefix_cons]
      · simp [GlobPart.accepts, eq_comm]
      · rintro ⟨⟩

end Glob

/-- A pattern of literal characters and one star behind them fits what starts with them. -/
theorem globMatches_iff_prefix {start key : String} (h : ∀ c ∈ start.toList, IsLiteral c) :
    globMatches (start ++ "*") key = true ↔ start.toList <+: key.toList := by
  have hparts : Glob.parts (start ++ "*").toList = start.toList.map .literal ++ [.anything] := by
    rw [Glob.parts, String.toList_append, Glob.partsUpTo_literals _ _ _ h (by simp)]
    simp [Glob.partsUpTo]
  rw [globMatches, hparts, Glob.matchParts_literals]

end Text

/-! ## Keys -/

namespace SharedStore

variable {s : SharedStore}

theorem deviceKey_injective {d d' : String} (h : s.deviceKey d = s.deviceKey d') : d = d' := by
  have hlist := congrArg String.toList h
  simp only [deviceKey, String.toList_append] at hlist
  exact String.toList_inj.1 (List.append_cancel_left hlist)

theorem userKey_injective {u u' : String} (h : s.userKey u = s.userKey u') : u = u' := by
  have hlist := congrArg String.toList h
  simp only [userKey, String.toList_append] at hlist
  exact String.toList_inj.1 (List.append_cancel_left hlist)

/-- The two kinds of keys differ behind the prefix. -/
theorem deviceKey_ne_userKey (d u : String) : s.deviceKey d ≠ s.userKey u := by
  intro h
  have hlist := congrArg String.toList h
  simp [deviceKey, userKey, deviceKeyPrefix, userKeyPrefix] at hlist

theorem exists_deviceKey_iff {key : String} :
    (∃ d, key = s.deviceKey d) ↔ s.deviceKeyPrefix.toList <+: key.toList := by
  constructor
  · rintro ⟨d, rfl⟩
    simp [deviceKey]
  · rintro ⟨cs, hcs⟩
    refine ⟨String.ofList cs, String.toList_inj.1 ?_⟩
    simpa [deviceKey] using hcs.symm

/-- A prefix without the characters that are special in patterns. -/
def PlainPrefix (s : SharedStore) : Prop := ∀ c ∈ s.keyPrefix.toList, Text.IsLiteral c

instance : Decidable s.PlainPrefix := List.decidableBAll _ _

theorem PlainPrefix.globMatches_iff (h : s.PlainPrefix) {key : String} :
    Text.globMatches (s.deviceKeyPrefix ++ "*") key = true ↔ ∃ d, key = s.deviceKey d := by
  rw [exists_deviceKey_iff]
  refine Text.globMatches_iff_prefix fun c hc => ?_
  rw [deviceKeyPrefix, String.toList_append, List.mem_append] at hc
  rcases hc with hc | hc
  · exact h c hc
  · have hname : ":device_code:".toList.all (fun c => decide (Text.IsLiteral c)) = true := by
      decide
    exact of_decide_eq_true (List.all_eq_true.1 hname c hc)

/-- The pattern of a sweep fits the key. -/
def Finds (s : SharedStore) (key : String) : Prop :=
  Text.globMatches (s.deviceKeyPrefix ++ "*") key = true

instance (key : String) : Decidable (s.Finds key) := inferInstanceAs (Decidable (_ = _))

theorem mem_scan_iff {key : String} : key ∈ s.service.scan (s.deviceKeyPrefix ++ "*") ↔
    s.service.get? key ≠ none ∧ s.Finds key := by
  rw [KeyValueService.scan, List.mem_filter, Table.mem_names_iff]
  rfl

/-- Of the keys that are there, the pattern fits none but keys of device codes. -/
def FindsOnlyDeviceKeys (s : SharedStore) : Prop :=
  ∀ key, s.service.get? key ≠ none → s.Finds key → ∃ d, key = s.deviceKey d

theorem PlainPrefix.finds (h : s.PlainPrefix) (d : String) : s.Finds (s.deviceKey d) :=
  h.globMatches_iff.2 ⟨d, rfl⟩

theorem PlainPrefix.findsOnlyDeviceKeys (h : s.PlainPrefix) : s.FindsOnlyDeviceKeys :=
  fun _ _ hfinds => h.globMatches_iff.1 hfinds

end SharedStore

end DeviceGrant
