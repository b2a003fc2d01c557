import DeviceGrant.Proofs.Store.Pairing
set_option autoImplicit false

/-! # Runs of the store in memory

A run is a sequence of calls, each at a reading of the clock. `MemoryStore.answer` is one call,
`run` the store after all of them and `transcript` what a caller sees: every call with its answer.

The tables stay inverse in every run, whatever the clock shows: `Paired` is kept by each call
(`Paired.answer`), hence by all of them. -/

namespace DeviceGrant

/-- A call of a store. -/
inductive StoreCall
  | insert (r : DeviceRecord)
  | delete (code : String)
  | deleteExpired
  | getByDeviceCode (code : String)
  | getByUserCode (code : String)
deriving DecidableEq

/-- What a store answers to a call of each kind. -/
inductive StoreAnswer
  | stored (b : Bool)
  | deleted (b : Bool)
  | swept (count : Nat)
  | found (r : Option DeviceRecord)
deriving DecidableEq

/-- A call at a reading of the clock. -/
structure TimedCall where
  now : Instant
  call : StoreCall
deriving DecidableEq

/-- The calls that were made and what was answered. -/
abbrev Transcript := List (TimedCall × StoreAnswer)

namespace MemoryStore

variable {s : MemoryStore}

/-- The answer to a call, and the store after it. -/
def answer (s : MemoryStore) (c : TimedCall) : StoreAnswer × MemoryStore :=
  match c.call with
  | .insert r => ((s.insertIfAbsent c.now r).map .stored id)
  | .delete code => ((s.delete code).map .deleted id)
  | .deleteExpired => ((s.deleteExpired c.now).map .swept id)
  | .getByDeviceCode code => (.found (s.getByDeviceCode c.now code), s)
  | .getByUserCode code => (.found (s.getByUserCode c.now code), s)

/-- The store after a sequence of calls. -/
def run (s : MemoryStore) (calls : List TimedCall) : MemoryStore :=
  calls.foldl (fun s c => (s.answer c).2) s

/-- The calls with their answers. -/
def transcript (s : MemoryStore) : List TimedCall → Transcript
  | [] => []
  | c :: cs => (c, (s.answer c).1) :: (s.answer c).2.transcript cs

theorem run_append_singleton (s : MemoryStore) (cs : List TimedCall) (c : TimedCall) :
    s.run (cs ++ [c]) = ((s.run cs).answer c).2 := by
  simp [run]

theorem transcript_append_singleton (s : MemoryStore) (cs : List TimedCall) (c : TimedCall) :
    s.transcript (cs ++ [c]) = s.transcript cs ++ [(c, ((s.run cs).answer c).1)] := by
  induction cs generalizing s with
  | nil => rfl
  | cons d ds ih => simp [transcript, ih, run]

/-! ## The tables stay inverse -/

theorem Paired.answer (h : s.Paired) (c : TimedCall) : (s.answer c).2.Paired := by
  obtain ⟨now, call⟩ := c
  cases call with
  | insert r => exact h.insertIfAbsent now r
  | delete code => exact h.remove code
  | deleteExpired => exact h.deleteExpired now
  | getByDeviceCode code => exact h
  | getByUserCode code => exact h

theorem Paired.run (h : s.Paired) (calls : List TimedCall) : (s.run calls).Paired := by
  induction calls generalizing s with
  | nil => exact h
  | cons c cs ih => exact ih (h.answer c)

/-- In every run from the empty store, with whatever clock, the two tables are inverse: they have
the same size, no user code dangles, and a look-up by user code finds a record exactly if it has
that user code and is found by its device code. -/
theorem tables_stay_inverse (calls : List TimedCall) :
    (empty.run calls).Paired ∧
    (empty.run calls).devices.size = (empty.run calls).users.size ∧
    (∀ u code, (empty.run calls).users.get? u = some code →
      (empty.run calls).devices.contains code = true) ∧
    ∀ now u r, (empty.run calls).getByUserCode now u = some r ↔
      (empty.run calls).getByDeviceCode now r.deviceCode = some r ∧ r.userCode = u := by
  have h : (empty.run calls).Paired := paired_empty.run calls
  refine ⟨h, h.size_eq, ?_, ?_⟩
  · intro u code hu
    obtain ⟨r, hr, _⟩ := h.user u code hu
    simp [Table.contains, hr]
  · intro now u r
    exact h.getByUserCode_iff

end MemoryStore

end DeviceGrant
