import DeviceGrant.Client
import DeviceGrant.Event
import DeviceGrant.Yaml.Load
set_option autoImplicit false

/-! # The clients file

Registered clients are listed in a YAML file, under the key `clients`, by their ids. A file that is
missing, cannot be read or is not a mapping counts as empty. An entry that does not describe a
client is passed over with an event, and the other entries stay usable; only a scope with a member
that no set can hold, and an id with a whole number too long to be printed, end the reading.

An entry lists its scope as a sequence or as one text of words, as requests do. -/

namespace DeviceGrant

/-- What stands at the path of a clients file. -/
inductive ClientsFile
  | missing
  | unreadable
  | octets (content : List UInt8)
deriving DecidableEq

namespace ClientsFile

/-- The characters of a text with each kind of line end as a line feed. -/
def unifyLineEnds : List Char → List Char
  | '\r' :: '\n' :: cs => '\n' :: unifyLineEnds cs
  | '\r' :: cs => '\n' :: unifyLineEnds cs
  | c :: cs => c :: unifyLineEnds cs
  | [] => []

/-- A parser of clients files. -/
class Parser where
  /-- The value of a file's content; none for content that it cannot parse. -/
  value? : List UInt8 → Option Value

/-- The value of a file's content, which is YAML in UTF-8. -/
def value? (content : List UInt8) : Option Value := do
  let text ← Text.utf8Decode? content
  Yaml.load? (unifyLineEnds text.toList)

/-- Clients files are YAML where no other parser is given. -/
instance : Parser := ⟨value?⟩

/-- The entries of a file; none when it is no mapping. -/
def load [Parser] (path : String) : ClientsFile → Logged (List (Value × Value))
  | missing => ⟨[], [.clientsFileMissing path]⟩
  | unreadable => ⟨[], [.clientsFileUnreadable]⟩
  | octets content =>
    match Parser.value? content with
    | some (.map entries) => .silent entries
    | some _ => .silent []
    | none => ⟨[], [.clientsFileUnreadable]⟩

end ClientsFile

namespace Client

/-! ## Entries -/

/-- The scope of an entry: the members of a sequence or set, or the words of a text; none for
anything else. -/
def scopeMembers? : Value → Option (List Value)
  | .text s => some ((Text.words s).map .text)
  | .list vs => some vs
  | .tuple vs => some vs
  | .set vs => some vs
  | _ => none

/-- The kind of the first member that no set can hold. -/
def nonMember? (members : List Value) : Option String :=
  (members.find? fun v => !v.isKey).map Value.nonKeyWord

/-- The data of a client from the parts of its entry. -/
def entryData (id : String) (members : List Value) (information : Value) : Value :=
  .map [(.text "client_id", .text id), (.text "scope", .set (Value.distinct members)),
    (.text "additional_information", information)]

/-- The client of an entry, if the entry describes one. -/
def ofEntry (id : String) (entry : Value) : Logged (Except Failure (Option Client)) :=
  let entry := Value.orDefault (some entry) (.map [])
  match entry with
  | .map fields =>
    match scopeMembers? (Value.orDefault (Value.field? "scope" fields) (.list [])) with
    | none => ⟨.ok none, [.clientScopeMalformed id]⟩
    | some members =>
      match nonMember? members with
      | some kind => .silent (.error (.notMember kind))
      | none =>
        let information :=
          Value.orDefault (Value.field? "additional_information" fields) (.map [])
        match Client.ofValue (entryData id members information) with
        | .ok c => .silent (.ok (some c))
        | .error r => ⟨.ok none, [.clientEntryInvalid id r]⟩
  | v => ⟨.ok none, [.clientEntryNotMapping id v.kindWord]⟩

/-- The clients of further entries, added to those before. -/
def addEntries (known : Table Client) : List (Value × Value) →
    Logged (Except Failure (Table Client))
  | [] => .silent (.ok known)
  | (key, entry) :: rest =>
    if !key.isPrintable then .silent (.error .numberTooLong)
    else
      let id := key.toText
      let here := ofEntry id entry
      match here.value with
      | .error f => ⟨.error f, here.events⟩
      | .ok c =>
        let known := match c with
          | some c => known.put id c
          | none => known
        let there := addEntries known rest
        ⟨there.value, here.events ++ there.events⟩

/-- The clients that a configuration lists. -/
def ofConfig (config : List (Value × Value)) : Logged (Except Failure (Table Client)) :=
  match Value.orDefault (Value.field? "clients" config) (.map []) with
  | .map entries => addEntries .empty entries
  | v => ⟨.ok .empty, [.clientsSectionIgnored v.kindWord]⟩

end Client

end DeviceGrant
