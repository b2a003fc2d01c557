import DeviceGrant.Table
import DeviceGrant.Text.Glob
set_option autoImplicit false

/-! # A key-value service

The service that a shared store relies on: texts under keys, with seconds to live beside them. A
key never vanishes by itself. Several keys can be set at once, all or none. While the service
fails, every command is refused with one message and changes nothing. -/

namespace DeviceGrant

/-- The keys of the service, their seconds to live, and the message of a failure that lasts. -/
structure KeyValueService where
  values : Table String
  ttls : Table Int
  failure : Option String
deriving DecidableEq

namespace KeyValueService

/-- The service without keys. -/
def empty : KeyValueService := ⟨.empty, .empty, none⟩

/-- The value of a key. -/
def get? (s : KeyValueService) (key : String) : Option String := s.values.get? key

/-- Sets a key without seconds to live. -/
def set (s : KeyValueService) (key value : String) : KeyValueService :=
  { s with values := s.values.put key value }

/-- Sets all keys unless one of them exists, and says whether they were set. -/
def setAllIfAbsent (s : KeyValueService) (entries : List (String × String)) :
    Bool × KeyValueService :=
  if entries.any fun e => s.values.contains e.1 then (false, s)
  else (true, entries.foldl (fun s e => s.set e.1 e.2) s)

/-- Gives a key seconds to live, if it exists. -/
def expire (s : KeyValueService) (key : String) (seconds : Int) : KeyValueService :=
  if s.values.contains key then { s with ttls := s.ttls.put key seconds } else s

/-- The service without a key. -/
def erase (s : KeyValueService) (key : String) : KeyValueService :=
  { s with values := s.values.erase key, ttls := s.ttls.erase key }

/-- Removes keys, and says how many existed. -/
def delete (s : KeyValueService) : List String → Nat × KeyValueService
  | [] => (0, s)
  | key :: keys =>
    let (n, t) := delete (s.erase key) keys
    (n + (if s.values.contains key then 1 else 0), t)

/-- The keys that fit a pattern, in order of insertion. -/
def scan (s : KeyValueService) (pattern : String) : List String :=
  s.values.names.filter (Text.globMatches pattern)

end KeyValueService

end DeviceGrant
