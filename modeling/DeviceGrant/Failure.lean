import DeviceGrant.Refusal
import DeviceGrant.Url.Split
set_option autoImplicit false

/-! # Failures

An operation ends with a failure when it is refused, when data from outside does not have the
structure it should have, or when something around the flow breaks: an override that no parser can
finish, a member that no set can hold, a store that does not answer. Only refusals are part of the
protocol; the others end as an internal error for the caller. -/

namespace DeviceGrant

/-- Why an operation has no result. -/
inductive Failure
  | refused (r : Refusal)
  | invalid (r : Rejection)
  | url (f : UrlFault)
  /-- A numeral has more digits than are converted. -/
  | numeralTooLong (digits : Nat)
  /-- A whole number has more digits than are printed. -/
  | numberTooLong
  /-- A value of the named kind was to become a member of a set. -/
  | notMember (kind : String)
  /-- Entries that cannot be changed were to be changed in the named way. -/
  | readOnlyEntries (way : String)
  /-- The shared store does not answer. -/
  | storeUnreachable (message : String)
  /-- A second is too far away to be compared with a fractional reading of the clock. -/
  | secondTooLarge
  /-- A double has no whole number nearby: it is infinite or not a number. -/
  | noWholeNumber (x : Number.Binary64)
  /-- The service could not be set up. -/
  | setup (message : String)
  /-- A route that does not start with a slash. -/
  | routePath
  /-- A level of log lines that is a text and names no level. -/
  | unknownLevel (level : String)
  /-- A level of log lines that is no level at all. -/
  | levelKind (value : String)
  /-- A layout of log lines without a single field. -/
  | logLayout (layout : String)
  /-- A value that was not to be had. -/
  | value (message : String)
  /-- An operation that could not go on. -/
  | runtime (message : String)
  /-- A name that was looked up in vain. -/
  | key (name : String)
deriving DecidableEq

namespace Failure

/-- The name by which log lines call a failure. -/
def word : Failure → String
  | refused r => r.word
  | invalid _ => "ValidationError"
  | url _ => "ValueError"
  | numeralTooLong _ => "ValueError"
  | numberTooLong => "ValueError"
  | notMember _ => "TypeError"
  | readOnlyEntries _ => "TypeError"
  | storeUnreachable _ => "ConnectionError"
  | secondTooLarge => "OverflowError"
  | noWholeNumber x => if x = .nan then "ValueError" else "OverflowError"
  | setup _ => "RuntimeError"
  | routePath => "AssertionError"
  | unknownLevel _ => "ValueError"
  | levelKind _ => "TypeError"
  | logLayout _ => "ValueError"
  | value _ => "ValueError"
  | runtime _ => "RuntimeError"
  | key _ => "KeyError"

/-- The message of a failure. -/
def message : Failure → String
  | refused r => r.message
  | invalid r => r.summary
  | url f => f.message
  | numeralTooLong n =>
    "Exceeds the limit (4300 digits) for integer string conversion: value has " ++ toString n ++
      " digits; use sys.set_int_max_str_digits() to increase the limit"
  | numberTooLong =>
    "Exceeds the limit (4300 digits) for integer string conversion; " ++
      "use sys.set_int_max_str_digits() to increase the limit"
  | notMember kind => "unhashable type: '" ++ kind ++ "'"
  | readOnlyEntries way => "'mappingproxy' object does not support item " ++ way
  | storeUnreachable m => m
  | secondTooLarge => "int too large to convert to float"
  | noWholeNumber x =>
    "cannot convert float " ++ (if x = .nan then "NaN" else "infinity") ++ " to integer"
  | setup m => "Redis connection failed: " ++ m
  | routePath => "Routed paths must start with '/'"
  | unknownLevel level => "Unknown level: " ++ Text.quoted level
  | levelKind v => "Level not an integer or a valid string: " ++ v
  | logLayout layout => "Invalid format '" ++ layout ++ "' for '%' style"
  | value m => m
  | runtime m => m
  | key name => Text.quoted name

end Failure

end DeviceGrant
