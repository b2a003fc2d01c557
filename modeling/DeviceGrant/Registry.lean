import DeviceGrant.Registry.ClientsFile
set_option autoImplicit false

/-! # The registry of clients

A registry knows clients by their ids. It holds either a fixed set of clients, or those of a
clients file. The file is read at the first look-up and again at the first one after a reload;
between them, changes of the file are not seen. A reading that fails leaves the registry unread. -/

namespace DeviceGrant

/-- A registry of clients. -/
inductive Registry
  /-- A fixed set of clients. -/
  | fixed (clients : Table Client)
  /-- A clients file: its path, what stands there, and the clients of the last reading. -/
  | file (path : String) (content : ClientsFile) (snapshot : Option (Table Client))

namespace Registry

/-- The fixed registry of a list of clients; of two with one id the later holds. -/
def ofClients (clients : List Client) : Registry :=
  .fixed (.ofList (clients.map fun c => (c.clientId, c)))

/-- The clients of a file. -/
def readFile [ClientsFile.Parser] (path : String) (content : ClientsFile) : Logged (Except Failure (Table Client)) :=
  let config := content.load path
  let clients := Client.ofConfig config.value
  match clients.value with
  | .error f => ⟨.error f, config.events ++ clients.events⟩
  | .ok t => ⟨.ok t, config.events ++ clients.events ++ [.clientsLoaded t.size path]⟩

/-- The client with an id, read from the file where that has not been done. -/
def lookup [ClientsFile.Parser] (r : Registry) (id : String) :
    Logged (Except Failure (Option Client)) × Registry :=
  let find (t : Table Client) : Logged (Except Failure (Option Client)) :=
    match t.get? id with
    | some c => .silent (.ok (some c))
    | none => ⟨.ok none, [.clientNotFound id]⟩
  match r with
  | .fixed clients => (.silent (.ok (clients.get? id)), r)
  | .file _ _ (some t) => (find t, r)
  | .file path content none =>
    let read := readFile path content
    match read.value with
    | .error f => (⟨.error f, read.events⟩, r)
    | .ok t =>
      let found := find t
      (⟨found.value, read.events ++ found.events⟩, .file path content (some t))

/-- The registry that reads its file again at the next look-up. -/
def reload : Registry → Registry
  | .fixed clients => .fixed clients
  | .file path content _ => .file path content none

/-- The registry after its file has been changed. -/
def withContent (content : ClientsFile) : Registry → Registry
  | .fixed clients => .fixed clients
  | .file path _ snapshot => .file path content snapshot

/-- A fixed registry with a further client. -/
def register (c : Client) : Registry → Registry
  | .fixed clients => .fixed (clients.put c.clientId c)
  | r => r

end Registry

end DeviceGrant
