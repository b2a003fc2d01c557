import DeviceGrant.Proofs.Issuing
import DeviceGrant.Proofs.Store.Contents
import DeviceGrant.Proofs.Text.Words
import DeviceGrant.Proofs.Validator
import DeviceGrant.Service
set_option autoImplicit false

/-! # Every stored record is authorised

The records of a store come from authorizations, each of which validates its request before it
issues codes. `Authorised` says what a record then owes to the registry, to its own parameters and
to the issuer; it does not mention how the record came about. Validation establishes it for the
request, every attempt of the issuer for the record that it tries to store, and nothing else puts a
record into a store: so it holds of all records in every run, in a store of either kind. -/

namespace DeviceGrant

/-! ## Registries that stay the same -/

namespace Registry

variable {r r' : Registry} {parameters : Table String} {principal : Option Principal}

/-- Two registries know the same clients. -/
def Agrees (r r' : Registry) : Prop := ∀ id, (r.lookup id).1.value = (r'.lookup id).1.value

theorem Agrees.refl (r : Registry) : r.Agrees r := fun _ => rfl

theorem Agrees.trans {r'' : Registry} (h : r.Agrees r') (h' : r'.Agrees r'') : r.Agrees r'' :=
  fun id => (h id).trans (h' id)

/-- A look-up may read the clients file, and later look-ups find what stood there. -/
theorem lookup_agrees (r : Registry) (id : String) : (r.lookup id).2.Agrees r := by
  intro other
  match r with
  | .fixed clients => rfl
  | .file _ _ (some t) => rfl
  | .file path content none =>
    cases hread : (readFile path content).value with
    | error f => simp only [lookup, hread]
    | ok t => simp only [lookup, hread]

/-- Validation changes a registry by no more than a look-up. -/
theorem validate_agrees (r : Registry) (parameters : Table String) (principal : Option Principal) :
    (r.validate parameters principal).2.Agrees r := by
  unfold validate
  split
  · exact .refl r
  · simp only
    split
    · exact .refl r
    · split
      · exact .refl r
      · split <;> exact r.lookup_agrees _

end Registry

/-! ## Authorised records -/

/-- The scope of a request is the one that its parameters ask for, or that of the client if they
ask for none. -/
structure AuthorizationRequest.GrantsScope (q : AuthorizationRequest) (c : Client) : Prop where
  within : ∀ w ∈ q.scope, w ∈ c.scope
  asked : ∀ text, q.parameters.get? scopeParameter = some text →
    (∃ a ∈ text.toList, Text.isBlank a = false) → ∀ w, w ∈ q.scope ↔ Text.IsWord text w
  default : (∀ text, q.parameters.get? scopeParameter = some text →
    ∀ a ∈ text.toList, Text.isBlank a = true) → q.scope = c.scope

/-- A request for a registered client that asks for no more than the client may have. -/
structure AuthorizationRequest.IsAuthorised (registry : Registry) (q : AuthorizationRequest) :
    Prop where
  client : ∃ c, (registry.lookup q.clientId).1.value = .ok (some c) ∧ c.clientId = q.clientId ∧
    q.GrantsScope c
  parameter : q.parameters.get? clientIdParameter = some q.clientId

/-- A record of such a request that waits for approval and lives as long as the issuer says. -/
structure DeviceRecord.IsAuthorised (registry : Registry) (issuer : Issuer) (r : DeviceRecord) :
    Prop where
  request : r.request.IsAuthorised registry
  pending : r.status = .pending
  lifetime : r.expiresAt - r.issuedAt = issuer.expirySeconds

/-! ## What is put into a store -/

theorem requestedScope_isEmpty_iff {parameters : Table String} :
    (requestedScope parameters).isEmpty = true ↔
      ∀ text, parameters.get? scopeParameter = some text →
        ∀ a ∈ text.toList, Text.isBlank a = true := by
  unfold requestedScope
  cases hscope : parameters.get? scopeParameter with
  | none => simp [Scope.isEmpty_iff]
  | some text => simpa using Scope.isEmpty_parse_iff

theorem Client.checkScope_eq_ok_iff {c : Client} {requested : Scope} :
    (c.checkScope requested).value = .ok () ↔ ∀ w ∈ requested, w ∈ c.scope := by
  unfold checkScope
  dsimp only
  split
  · next hempty =>
    rw [Scope.isEmpty_iff] at hempty
    simpa [Logged.silent] using hempty
  · next hexcess =>
    rw [Scope.isEmpty_iff] at hexcess
    simpa using hexcess

/-- An accepted request is authorised. -/
theorem AuthorizationRequest.isAuthorised_of_accepted {registry r : Registry}
    {parameters : Table String} {principal : Option Principal} {q : AuthorizationRequest}
    {c : Client} (hregistry : registry.Keyed) (hagrees : r.Agrees registry)
    (h : (r.validate parameters principal).1.value = .ok (q, c)) : q.IsAuthorised registry := by
  obtain ⟨p, haccepted⟩ := Registry.validate_eq_ok_iff.1 h
  have hfound : (registry.lookup q.clientId).1.value = .ok (some c) :=
    (hagrees q.clientId).symm.trans haccepted.registered
  have hallowed := Client.checkScope_eq_ok_iff.1 haccepted.allowed
  have hscope : q.scope = if (requestedScope q.parameters).isEmpty then c.scope
      else requestedScope q.parameters :=
    congrArg AuthorizationRequest.scope haccepted.granted
  refine ⟨⟨c, hfound, (hregistry.lookup q.clientId).2 c hfound, ?_, ?_, ?_⟩, haccepted.named⟩
  · intro w hw
    rw [hscope] at hw
    split at hw
    · exact hw
    · exact hallowed w hw
  · -- A character that is not blank makes a word, so the default does not apply.
    intro text htext ⟨a, ha, hblank⟩ w
    have hnonempty : ¬ (requestedScope q.parameters).isEmpty = true := by
      intro hempty
      have hall := requestedScope_isEmpty_iff.1 hempty text htext a ha
      rw [hblank] at hall
      cases hall
    rw [hscope, if_neg hnonempty, requestedScope, htext]
    exact Scope.mem_parse_iff
  · intro hblank
    rw [hscope, if_pos (requestedScope_isEmpty_iff.2 hblank)]

namespace Issuer

variable {i : Issuer} {codes : CodeSource} {now : Instant} {request : AuthorizationRequest}
  {P : DeviceRecord → Prop}

theorem isAuthorised_newRecord {registry : Registry} {draw : Nat} {r : DeviceRecord}
    (hrequest : request.IsAuthorised registry)
    (h : i.newRecord codes now request draw = .ok r) : r.IsAuthorised registry i := by
  obtain ⟨second, _, rfl⟩ := newRecord_eq_ok_iff.1 h
  refine ⟨hrequest, rfl, ?_⟩
  dsimp only
  omega

/-- Issuing puts no record into the store but those that its attempts draw. -/
theorem within_attempt (left : Nat) (s : Issuance) (hs : s.store.Within P)
    (hnew : ∀ draw r, i.newRecord codes now request draw = .ok r → P r) :
    (i.attempt codes now request left s).2.store.Within P :=
  attempt_keeps (P := fun s => s.store.Within P)
    (fun _ r hs hr => hs.insertIfAbsent (hnew _ r hr) now) left hs

end Issuer

/-! ## Runs -/

/-- What a service is asked to do. Each authorization draws its own codes. -/
inductive ServiceCall
  | authorize (codes : CodeSource) (parameters : Table String) (principal : Option Principal)
    (context : RequestContext)
  | getByDeviceCode (code : String)
  | getByUserCode (code : String)
  | delete (code : String)
  | deleteExpired

namespace Service

variable {v : Service} {registry : Registry} {s : ServiceState}

/-- The state after a call at a reading of the clock. -/
def handle (v : Service) (s : ServiceState) (now : Instant) : ServiceCall → ServiceState
  | .authorize codes parameters principal context =>
    ({ v with codes }.authorize now parameters principal context s).2
  | .getByDeviceCode _ => s
  | .getByUserCode _ => s
  | .delete code => { s with issuance := { s.issuance with store := (s.issuance.store.delete code).2 } }
  | .deleteExpired =>
    { s with issuance := { s.issuance with store := (s.issuance.store.deleteExpired now).2 } }

/-- The state after a sequence of calls, each at its reading of the clock. -/
def run (v : Service) (s : ServiceState) (calls : List (Instant × ServiceCall)) : ServiceState :=
  calls.foldl (fun s c => v.handle s c.1 c.2) s

/-- The registry knows the clients that it knew at first, and every stored record is authorised. -/
structure Sound (v : Service) (registry : Registry) (s : ServiceState) : Prop where
  agrees : s.registry.Agrees registry
  records : s.issuance.store.Within (DeviceRecord.IsAuthorised registry v.issuer)

theorem Sound.authorize (h : v.Sound registry s) (hregistry : registry.Keyed) (now : Instant)
    (parameters : Table String) (principal : Option Principal) (context : RequestContext) :
    v.Sound registry (v.authorize now parameters principal context s).2 := by
  have hagrees := (s.registry.validate_agrees parameters principal).trans h.agrees
  unfold Service.authorize
  dsimp only
  split
  · exact ⟨hagrees, h.records⟩
  · next request client hvalid =>
    have hrequest := AuthorizationRequest.isAuthorised_of_accepted hregistry h.agrees hvalid
    have hrecords : (v.issuer.issue v.codes now request s.issuance).2.store.Within
        (DeviceRecord.IsAuthorised registry v.issuer) :=
      Issuer.within_attempt v.issuer.maxAttempts.toNat s.issuance h.records
        fun draw r => Issuer.isAuthorised_newRecord hrequest
    split
    · exact ⟨hagrees, hrecords⟩
    · exact ⟨hagrees, hrecords⟩

theorem Sound.handle (h : v.Sound registry s) (hregistry : registry.Keyed) (now : Instant)
    (call : ServiceCall) : v.Sound registry (v.handle s now call) := by
  cases call with
  | authorize codes parameters principal context =>
    -- What is sound does not depend on where the codes come from.
    have hcodes : Sound { v with codes } registry s := ⟨h.agrees, h.records⟩
    have hafter := hcodes.authorize hregistry now parameters principal context
    exact ⟨hafter.agrees, hafter.records⟩
  | getByDeviceCode code => exact h
  | getByUserCode code => exact h
  | delete code => exact ⟨h.agrees, h.records.delete code⟩
  | deleteExpired => exact ⟨h.agrees, h.records.deleteExpired now⟩

theorem Sound.run (h : v.Sound registry s) (hregistry : registry.Keyed)
    (calls : List (Instant × ServiceCall)) : v.Sound registry (v.run s calls) := by
  induction calls generalizing s with
  | nil => exact h
  | cons c calls ih => exact ih (h.handle hregistry c.1 c.2)

/-- In every run of a service from a store of either kind without records, with whatever registry
can come about and whatever the clock shows, every record in the store is authorised: its client is
registered under its own id, its scope is what its parameters ask for and lies within that of the
client, its parameters carry the client id, it waits for approval, and it lives as long as the
issuer says. So is every record that a look-up finds. -/
theorem stored_records_authorised (v : Service) (registry : Registry) (hregistry : registry.Arises)
    (store : Store) (hstore : store.IsEmpty) (drawn : Nat) (calls : List (Instant × ServiceCall)) :
    (∀ r, (v.run ⟨registry, ⟨store, drawn⟩⟩ calls).issuance.store.Holds r →
      r.IsAuthorised registry v.issuer) ∧
    ∀ now code r,
      ((v.run ⟨registry, ⟨store, drawn⟩⟩ calls).issuance.store.getByDeviceCode now code =
          .ok (some r) ∨
        (v.run ⟨registry, ⟨store, drawn⟩⟩ calls).issuance.store.getByUserCode now code =
          .ok (some r)) →
      r.IsAuthorised registry v.issuer := by
  have hstart : v.Sound registry ⟨registry, ⟨store, drawn⟩⟩ := ⟨.refl registry, .of_isEmpty hstore⟩
  have hend := (hstart.run hregistry.keyed calls).records
  refine ⟨fun r => hend.holds, ?_⟩
  rintro now code r (hr | hr)
  · exact hend.getByDeviceCode hr
  · exact hend.getByUserCode hr

/-- A service that issues codes for ten minutes. -/
def tenMinutes : Service :=
  ⟨⟨600, 10⟩, ⟨fun _ => "", fun _ => ""⟩, 2, "user_verify"⟩

/-- The first app asks for a scope with blanks around it, and the store is swept. -/
def scopeWithBlanks : List (Instant × ServiceCall) :=
  [(.whole 1000, .authorize ⟨fun _ => "d", fun _ => "u"⟩
      (.ofList [(clientIdParameter, "device-app-1"), (scopeParameter, " read ")])
      (some (.client "device-app-1" true)) ⟨"https://host/oauth/device_authorize"⟩),
    (.whole 1600, .deleteExpired)]

/-- The record that this leaves has the scope without the blanks. -/
theorem stored_records_authorised_blanks :
    Registry.Arises Registry.twoApps ∧ (Store.memory .empty).IsEmpty ∧
      ∃ r, (tenMinutes.run ⟨Registry.twoApps, ⟨.memory .empty, 0⟩⟩
          scopeWithBlanks).issuance.store.Holds r ∧
        r.request.scope.names = ["read"] ∧ r.IsAuthorised Registry.twoApps tenMinutes.issuer := by
  have hempty : (Store.memory .empty).IsEmpty := rfl
  obtain ⟨r, hheld, hscope⟩ : ∃ r, (tenMinutes.run ⟨Registry.twoApps, ⟨.memory .empty, 0⟩⟩
      scopeWithBlanks).issuance.store.Holds r ∧ r.request.scope.names = ["read"] :=
    ⟨_, ⟨"d", rfl⟩, by decide⟩
  exact ⟨.ofClients _, hempty, r, hheld, hscope,
    (stored_records_authorised tenMinutes Registry.twoApps (.ofClients _) (.memory .empty) hempty 0
      scopeWithBlanks).1 r hheld⟩

end Service

end DeviceGrant
