import DeviceGrant.Store
set_option autoImplicit false

/-! # The sweeper

Expired records are not found any more, so removing them only frees memory. The sweeper does so in
the background: it waits for its interval, sweeps the store, and begins again until it is stopped.
A sweep that fails is told by an event and counts as nothing removed; it never ends the sweeper. -/

namespace DeviceGrant.Sweeper

/-- Removes the expired records from a store, and says how many there were. -/
def sweep (now : Instant) (store : Store) : Logged Nat × Store :=
  let (result, store) := store.deleteExpired now
  match result.value with
  | .ok n => (⟨n, result.events⟩, store)
  | .error f => (⟨0, result.events ++ [.sweepFailed f]⟩, store)

/-- The sweeps of a number of rounds, the clock moved on by the interval before each. The later
reading of the clock comes with the store. -/
def rounds (interval : Instant) : Nat → Instant → Store → Logged (List Nat) × Instant × Store
  | 0, now, store => (.silent [], now, store)
  | n + 1, now, store =>
    let now := now.advance interval
    let (first, store) := sweep now store
    let (others, now, store) := rounds interval n now store
    (⟨first.value :: others.value, first.events ++ others.events⟩, now, store)

/-- The life of a sweeper that is started, finishes a number of rounds and is stopped. -/
def run (interval : Instant) (n : Nat) (now : Instant) (store : Store) :
    Logged (List Nat) × Instant × Store :=
  let (sweeps, now, store) := rounds interval n now store
  (⟨sweeps.value, .sweeperStarted interval.toText :: sweeps.events ++ [.sweeperStopped]⟩,
    now, store)

end DeviceGrant.Sweeper
