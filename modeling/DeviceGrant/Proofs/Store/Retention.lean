import DeviceGrant.Proofs.Store.KeySpace
import Mathlib.Data.List.Infix
set_option autoImplicit false

/-! # What an insert stored is what is read back

An insert stores the text of its record, and no later event writes over it: an event may take a key
away, but a key that is there before and after has the value that it had (`get?_of_happen`). So as
long as the key of a device code is there, it holds the text that the insert wrote
(`get?_of_stays`), and the record is read from it as it was (`inserted_reads_back`).

Only a record with a second of too many digits is not read from its text (`decode_encode_iff`). -/

namespace DeviceGrant

namespace DeviceRecord

/-- A record is read back from its text exactly if its seconds have at most 4300 digits. -/
theorem decode_encode_iff {r : DeviceRecord} : decode r.encode = .ok r ↔ r.SecondsFit 4300 := by
  refine ⟨fun h => ?_, decode_encode⟩
  by_contra hfit
  rw [decode_encode_of_not_fit hfit] at h
  cases h

end DeviceRecord

namespace SharedStore

variable {s : SharedStore} {now : Instant} {r : DeviceRecord} {key value : String}
  {events : List SharedEvent}

/-! ## A value stays as long as its key -/

/-- A key that is there before and after an event has the same value. -/
theorem get?_of_happen (hvalue : s.service.get? key = some value) (e : SharedEvent)
    (hstays : (s.happen e).service.get? key ≠ none) :
    (s.happen e).service.get? key = some value := by
  rcases s.happen_cases e with ⟨_, r, _, hfree, hwritten⟩ | ⟨_, hchange⟩
  · -- The keys of the inserted record were not there before, so this is none of them.
    have hdevice : key ≠ s.deviceKey r.deviceCode := by
      rintro rfl
      rw [hfree.1] at hvalue
      cases hvalue
    have huser : key ≠ s.userKey r.userCode := by
      rintro rfl
      rw [hfree.2] at hvalue
      cases hvalue
    rw [hwritten.value, if_neg huser, if_neg hdevice, hvalue]
  · cases hchange key with
    | kept hkept _ => rw [hkept, hvalue]
    | gone hgone _ => exact absurd hgone hstays

/-- A key is there before the events, after each of them and after all of them. -/
def Stays (s : SharedStore) (key : String) (events : List SharedEvent) : Prop :=
  ∀ past ∈ events.inits, (s.after past).service.get? key ≠ none

instance : Decidable (s.Stays key events) :=
  inferInstanceAs (Decidable (∀ past ∈ events.inits, (s.after past).service.get? key ≠ none))

theorem Stays.of_append_singleton {e : SharedEvent} (h : s.Stays key (events ++ [e])) :
    s.Stays key events ∧ ((s.after events).happen e).service.get? key ≠ none := by
  constructor
  · intro past hpast
    refine h past ?_
    rw [List.mem_inits] at hpast ⊢
    exact hpast.trans (List.prefix_append ..)
  · rw [← after_append_singleton]
    exact h _ ((List.mem_inits ..).2 List.prefix_rfl)

/-- As long as a key is there, it has the value that it had. -/
theorem get?_of_stays (hvalue : s.service.get? key = some value) (hstays : s.Stays key events) :
    (s.after events).service.get? key = some value := by
  induction events using List.reverseRecOn with
  | nil => exact hvalue
  | append_singleton events e ih =>
    obtain ⟨hbefore, hafter⟩ := hstays.of_append_singleton
    rw [after_append_singleton]
    exact get?_of_happen (ih hbefore) e hafter

/-! ## Inserted records -/

/-- An insert that stored its record has written its two keys. -/
theorem written_of_inserted (h : (s.insertIfAbsent now r).1.value = .ok true) :
    s.Written (s.insertIfAbsent now r).2 now r := by
  cases hfailure : s.service.failure with
  | some message =>
    rw [insertIfAbsent, hfailure] at h
    cases h
  | none =>
    by_cases hfree : s.Free r
    · exact (insertIfAbsent_of_free now hfailure hfree).2
    · rw [(insertIfAbsent_of_not_free now hfailure hfree).1] at h
      cases h

theorem stored?_of_get? {code : String}
    (htext : s.service.get? (s.deviceKey code) = some r.encode) (hfit : r.SecondsFit 4300) :
    s.stored? code = .ok (some r) := by
  have hvalue : s.value? (s.deviceKey code) = some r.encode := by
    simp [value?, htext, r.encode_ne_empty]
  rw [stored?, hvalue]
  simp only [DeviceRecord.decode_encode hfit]

/-- A record whose seconds have at most 4300 digits, of either sign, is read back from its text, and
so it is from a shared store: after an insert that stored it, whatever the store held before, and
whatever happens to the store while the key of its device code is there, that key holds the text of
the record and the record is read from it. -/
theorem inserted_reads_back (r : DeviceRecord) (hfit : r.SecondsFit 4300) :
    DeviceRecord.decode r.encode = .ok r ∧
    ∀ (s : SharedStore) (now : Instant) (events : List SharedEvent),
      (s.insertIfAbsent now r).1.value = .ok true →
      (s.insertIfAbsent now r).2.Stays (s.deviceKey r.deviceCode) events →
        ((s.insertIfAbsent now r).2.after events).service.get? (s.deviceKey r.deviceCode) =
          some r.encode ∧
        ((s.insertIfAbsent now r).2.after events).stored? r.deviceCode = .ok (some r) := by
  refine ⟨DeviceRecord.decode_encode hfit, fun s now events hinsert hstays => ?_⟩
  have hwritten := written_of_inserted hinsert
  have hkeyPrefix : ((s.insertIfAbsent now r).2.after events).keyPrefix = s.keyPrefix := by
    rw [keyPrefix_after, hwritten.keyPrefix]
  have htext := hwritten.holds_inserted.1
  rw [deviceKey_congr hwritten.keyPrefix] at htext
  have hlater := get?_of_stays htext hstays
  refine ⟨hlater, stored?_of_get? ?_ hfit⟩
  rw [deviceKey_congr hkeyPrefix]
  exact hlater

/-- A record with marks of quotation, controls and characters outside of the basic plane in its
texts, the second of issue with the most digits that is below zero, and one of expiry above all
machine integers. -/
def awkward : DeviceRecord where
  deviceCode := "d\"\\\n"
  userCode := "\u0000ü😀"
  request :=
    { clientId := "tv\u007f"
      scope := .ofList ["b\t", "a/"]
      parameters := .ofList [("", "\x7b\"x\":[]\x7d"), ("client_id", "tv")] }
  issuedAt := -(10 ^ 4300 - 1)
  expiresAt := 10 ^ 30
  status := .denied

/-- A store that already holds a record. -/
def occupied : SharedStore :=
  ((empty "device_flow").insertIfAbsent (.whole 0) (MemoryStore.sampleRecord "d" "u" 5)).2

/-- An insert under the same device code, and a delete in vain. -/
def commotion : List SharedEvent :=
  [.call ⟨.whole 7, .insert { awkward with userCode := "v" }⟩, .outage (some "down"),
    .call ⟨.whole 8, .delete awkward.deviceCode⟩, .outage none]

/-- The awkward record is read back after all of this. -/
theorem inserted_reads_back_awkward :
    awkward.SecondsFit 4300 ∧
    (occupied.insertIfAbsent (.whole 1) awkward).1.value = .ok true ∧
    (occupied.insertIfAbsent (.whole 1) awkward).2.Stays
      (occupied.deviceKey awkward.deviceCode) commotion ∧
    ((occupied.insertIfAbsent (.whole 1) awkward).2.after commotion).stored? awkward.deviceCode =
      .ok (some awkward) := by
  have hfit : awkward.SecondsFit 4300 := by
    constructor <;> (rw [Json.digitCount_le_iff (by decide)]; decide +kernel)
  have hinsert : (occupied.insertIfAbsent (.whole 1) awkward).1.value = .ok true := by
    decide +kernel
  have hstays : (occupied.insertIfAbsent (.whole 1) awkward).2.Stays
      (occupied.deviceKey awkward.deviceCode) commotion := by
    decide +kernel
  exact ⟨hfit, hinsert, hstays,
    ((inserted_reads_back awkward hfit).2 occupied (.whole 1) commotion hinsert hstays).2⟩

end SharedStore

end DeviceGrant
