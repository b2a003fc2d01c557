import DeviceGrant.Failure
set_option autoImplicit false

/-! # Readings of the clock

A clock shows the seconds since its epoch, as a whole number or as a double. Comparing a reading
with a whole number of seconds is exact for both. Adding to a fractional reading, and the time
that is left until a second, are rounded like every sum of doubles. A reading that is infinite or
not a number can be compared, but it has no whole second. -/

namespace DeviceGrant

open Number (Binary64)

/-- A reading of the clock in seconds. -/
inductive Instant
  | whole (seconds : Int)
  | fractional (seconds : Binary64)
deriving DecidableEq, Repr

namespace Instant

/-- Whether a reading lies after a whole second. -/
def isAfter : Instant → Int → Bool
  | whole s, t => t < s
  | fractional x, t => x.isAbove t

/-- A double with its places cut off. -/
def wholePart (x : Binary64) : Except Failure Int :=
  match x.truncate? with
  | some n => .ok n
  | none => .error (.noWholeNumber x)

/-- The whole second of a reading, its places cut off. -/
def truncate : Instant → Except Failure Int
  | whole s => .ok s
  | fractional x => wholePart x

/-- A reading as a double. -/
def toBinary64 : Instant → Binary64
  | whole s => .ofInt s
  | fractional x => x

/-- A later reading; the sum is whole when both parts are. -/
def advance : Instant → Instant → Instant
  | whole s, whole t => whole (s + t)
  | s, t => fractional (s.toBinary64.add t.toBinary64)

/-- The whole seconds that are left until a second, unless it is too large to be compared with a
fractional reading. -/
def secondsUntil (now : Instant) (t : Int) : Except Failure Int :=
  match now with
  | whole s => .ok (t - s)
  | fractional x =>
    match Binary64.ofInt t with
    | .infinite _ => .error .secondTooLarge
    | y => wholePart (y.sub x)

/-- A reading, or a span of time, in its shortest decimal form. -/
def toText : Instant → String
  | whole s => toString s
  | fractional x => x.toText

@[simp] theorem isAfter_whole (s t : Int) : (whole s).isAfter t = decide (t < s) := rfl

end Instant

end DeviceGrant
