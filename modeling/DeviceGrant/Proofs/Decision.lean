import DeviceGrant.Proofs.Authorised
import DeviceGrant.Proofs.Registry.Entries
import DeviceGrant.Proofs.Registry.Snapshot
import Mathlib
set_option autoImplicit false

/-! # The decision about a request

The conditions for acceptance are met in a fixed order. They are stated here on the caller, the
parameters and the registry alone, each as a structure that extends the one of the condition before
it: `Identified`, `Entitled`, `Named`, `Resolves`. `Grants` adds the last condition and says what is
accepted; `Refuses` has one constructor for each condition that may be the first one not to be met.

Every request is granted or refused, or else its look-up fails (`decided`), and one lemma for each
of the three says what validation then gives. So the three determine each other
(`validate_decides`). A look-up fails exactly for a registry that has to read its file and finds an
entry that ends the reading (`Registry.IsUnreadable`). -/

namespace DeviceGrant

/-! ## What a request asks for -/

/-- The scope parameter has a word. -/
def AsksFor (parameters : Table String) (word : String) : Prop :=
  ∃ text, parameters.get? scopeParameter = some text ∧ Text.IsWord text word

theorem mem_requestedScope_iff {parameters : Table String} {word : String} :
    word ∈ requestedScope parameters ↔ AsksFor parameters word := by
  unfold requestedScope AsksFor
  cases parameters.get? scopeParameter with
  | none => simp
  | some text => simp [Scope.mem_parse_iff]

theorem requestedScope_isEmpty_iff_forall {parameters : Table String} :
    (requestedScope parameters).isEmpty = true ↔ ¬ ∃ word, AsksFor parameters word := by
  simp only [Scope.isEmpty_iff, mem_requestedScope_iff, not_exists]

/-- The client id is not part of the scope. -/
theorem requestedScope_put_clientId (parameters : Table String) (id : String) :
    requestedScope (parameters.put clientIdParameter id) = requestedScope parameters := by
  have hother : scopeParameter ≠ clientIdParameter := by decide
  unfold requestedScope
  rw [Table.get?_put, if_neg hother]

/-- Two scopes with the same members are equal. -/
theorem Scope.ext_mem {a b : Scope} (h : ∀ word, word ∈ a ↔ word ∈ b) : a = b := by
  obtain ⟨names, hnames⟩ := a
  obtain ⟨names', hnames'⟩ := b
  congr 1
  exact hnames.eq_of_mem_iff hnames' h

namespace Table

variable {α : Type} {name : String} {value : α}

theorem putIn_of_lookIn {es : List (String × α)} (h : lookIn name es = some value) :
    putIn name value es = es := by
  induction es with
  | nil => cases h
  | cons e es ih =>
    obtain ⟨n, v⟩ := e
    unfold lookIn at h
    unfold putIn
    split at h
    · next hname =>
      cases h
      rw [if_pos hname]
    · next hname => rw [if_neg hname, ih h]

/-- Putting the value that is already there changes nothing. -/
theorem put_of_get? {t : Table α} (h : t.get? name = some value) : t.put name value = t :=
  ext_entries (putIn_of_lookIn h)

end Table

namespace Principal

/-- The client id for which a request is: the one that it sends, or the caller's name. -/
def resolvedId (p : Principal) (parameters : Table String) : String :=
  let sent := (parameters.get? clientIdParameter).getD ""
  if sent = "" then p.name else sent

end Principal

/-! ## Conditions -/

variable {r : Registry} {parameters : Table String} {principal : Option Principal} {p : Principal}
  {request : AuthorizationRequest} {client : Client}

/-- There is a caller, and it is authenticated. -/
structure Identified (principal : Option Principal) (p : Principal) : Prop where
  caller : principal = some p
  authenticated : p.isAuthenticated = true

theorem identified_iff :
    Identified principal p ↔ Principal.authenticated? principal = some p := by
  rw [Principal.authenticated?_eq_some_iff]
  exact ⟨fun h => ⟨h.caller, h.authenticated⟩, fun ⟨hcaller, h⟩ => ⟨hcaller, h⟩⟩

/-- A client id that is sent and not empty is the one for which the caller may ask. -/
structure Entitled (parameters : Table String) (principal : Option Principal) (p : Principal) :
    Prop extends Identified principal p where
  entitled : ∀ id, parameters.get? clientIdParameter = some id →
    id = "" ∨ id = p.effectiveClientId

/-- The request or the name of the caller gives a client id. -/
structure Named (parameters : Table String) (principal : Option Principal) (p : Principal) :
    Prop extends Entitled parameters principal p where
  named : p.resolvedId parameters ≠ ""

namespace Registry

/-- The client is registered. -/
structure Resolves (r : Registry) (parameters : Table String) (principal : Option Principal)
    (p : Principal) (client : Client) : Prop extends Named parameters principal p where
  registered : (r.lookup (p.resolvedId parameters)).1.value = .ok (some client)

/-- The client may have all that is asked for, and the accepted request has just that, or the whole
scope of the client if nothing is asked for. -/
structure Grants (r : Registry) (parameters : Table String) (principal : Option Principal)
    (p : Principal) (request : AuthorizationRequest) (client : Client) :
    Prop extends r.Resolves parameters principal p client where
  within : ∀ word, AsksFor parameters word → word ∈ client.scope
  clientId : request.clientId = p.resolvedId parameters
  asked : (∃ word, AsksFor parameters word) →
    ∀ word, word ∈ request.scope ↔ AsksFor parameters word
  unasked : (¬ ∃ word, AsksFor parameters word) → request.scope = client.scope
  normalized : request.parameters = parameters.put clientIdParameter (p.resolvedId parameters)

/-- The refusal for the first condition that is not met. -/
inductive Refuses (r : Registry) (parameters : Table String) (principal : Option Principal) :
    Refusal → Prop
  | unauthenticated : (∀ p, ¬ Identified principal p) →
    Refuses r parameters principal (.unauthenticated Refusal.unauthenticatedMessage)
  | clientMismatch {p : Principal} {id : String} : Identified principal p →
    parameters.get? clientIdParameter = some id → id ≠ "" → id ≠ p.effectiveClientId →
    Refuses r parameters principal (.clientMismatch id p.effectiveClientId)
  | missingClientId {p : Principal} : Entitled parameters principal p →
    p.resolvedId parameters = "" →
    Refuses r parameters principal (.missingClientId Refusal.missingClientIdMessage)
  | unknownClient {p : Principal} : Named parameters principal p →
    (r.lookup (p.resolvedId parameters)).1.value = .ok none →
    Refuses r parameters principal (.unknownClient (p.resolvedId parameters))
  | scopeNotAllowed {p : Principal} {client : Client} {excess : Scope} :
    r.Resolves parameters principal p client →
    (∀ word, word ∈ excess ↔ AsksFor parameters word ∧ word ∉ client.scope) →
    (∃ word, word ∈ excess) →
    Refuses r parameters principal (.scopeNotAllowed excess client.scope)

/-- The file has to be read, and an entry ends the reading. -/
def IsUnreadable : Registry → Prop
  | .file path content none =>
    ∃ e ∈ Client.entriesOf (content.load path).value, Client.EndsReading e
  | _ => False

/-! ## Look-ups that fail -/

end Registry

/-- An entry that cannot be read is no refusal of a request. -/
theorem Client.ofEntry_ne_refused (id : String) (entry : Value) (refusal : Refusal) :
    (ofEntry id entry).value ≠ .error (.refused refusal) := by
  intro h
  unfold ofEntry at h
  dsimp only at h
  split at h
  · split at h
    · cases h
    · split at h
      · cases h
      · split at h <;> cases h
  · cases h

theorem Client.addEntries_ne_refused {known : Table Client} {entries : List (Value × Value)}
    {refusal : Refusal} : (addEntries known entries).value ≠ .error (.refused refusal) := by
  induction entries generalizing known with
  | nil =>
    intro h
    cases h
  | cons e rest ih =>
    obtain ⟨key, entry⟩ := e
    cases hkey : key.isPrintable with
    | false =>
      rw [addEntries_cons_of_not_printable hkey]
      intro h
      cases h
    | true =>
      cases hentry : (ofEntry key.toText entry).value with
      | ok c =>
        rw [addEntries_cons_of_ok hkey hentry]
        exact ih
      | error f =>
        rw [addEntries_cons_of_error hkey hentry]
        rintro ⟨⟩
        exact ofEntry_ne_refused _ _ _ hentry

namespace Registry

/-- A look-up fails exactly for a registry that has to read its file and cannot. -/
theorem lookup_eq_error_iff (id : String) :
    (∃ f, (r.lookup id).1.value = .error f) ↔ r.IsUnreadable := by
  match r with
  | .fixed clients => simp [lookup, Logged.silent, IsUnreadable]
  | .file path content (some t) =>
    simp [(lookup_of_snapshot path content t id).1, IsUnreadable]
  | .file path content none =>
    show _ ↔ ∃ e ∈ Client.entriesOf (content.load path).value, Client.EndsReading e
    have hreading : (∃ f, content.clients path = .error f) ↔
        ∃ e ∈ Client.entriesOf (content.load path).value, Client.EndsReading e := by
      rw [ClientsFile.clients, Client.value_ofConfig]
      exact Client.addEntries_eq_error_iff
    rw [← hreading]
    cases hread : content.clients path with
    | ok t => simp [(lookup_of_ok hread id).1]
    | error f => simp [(lookup_of_error hread id).1]

theorem lookup_ne_refused (id : String) (refusal : Refusal) :
    (r.lookup id).1.value ≠ .error (.refused refusal) := by
  match r with
  | .fixed clients => simp [lookup, Logged.silent]
  | .file path content (some t) => simp [(lookup_of_snapshot path content t id).1]
  | .file path content none =>
    cases hread : content.clients path with
    | ok t => simp [(lookup_of_ok hread id).1]
    | error f =>
      rw [(lookup_of_error hread id).1]
      rintro ⟨⟩
      rw [ClientsFile.clients, Client.value_ofConfig] at hread
      exact Client.addEntries_ne_refused hread

/-! ## Validation in terms of the conditions -/

theorem scope_acceptedRequest_of_asks (id : String) (client : Client)
    (h : ∃ word, AsksFor parameters word) :
    (acceptedRequest id client (parameters.put clientIdParameter id)).scope =
      requestedScope parameters := by
  have hnonempty : ¬ (requestedScope parameters).isEmpty = true := by
    rw [requestedScope_isEmpty_iff_forall, not_not]
    exact h
  simp only [acceptedRequest, requestedScope_put_clientId, if_neg hnonempty]

theorem scope_acceptedRequest_of_not_asks (id : String) (client : Client)
    (h : ¬ ∃ word, AsksFor parameters word) :
    (acceptedRequest id client (parameters.put clientIdParameter id)).scope = client.scope := by
  have hempty := requestedScope_isEmpty_iff_forall.2 h
  simp only [acceptedRequest, requestedScope_put_clientId, if_pos hempty]

theorem grants_acceptedRequest (h : r.Resolves parameters principal p client)
    (hwithin : ∀ word, AsksFor parameters word → word ∈ client.scope) :
    r.Grants parameters principal p (acceptedRequest (p.resolvedId parameters) client
      (parameters.put clientIdParameter (p.resolvedId parameters))) client where
  toResolves := h
  within := hwithin
  clientId := rfl
  asked := by
    intro hasks word
    rw [scope_acceptedRequest_of_asks _ _ hasks]
    exact mem_requestedScope_iff
  unasked := scope_acceptedRequest_of_not_asks _ _
  normalized := rfl

/-- What a granted request has settles it. -/
theorem Grants.request_eq (h : r.Grants parameters principal p request client) :
    request = acceptedRequest (p.resolvedId parameters) client
      (parameters.put clientIdParameter (p.resolvedId parameters)) := by
  have haccepted := grants_acceptedRequest h.toResolves h.within
  have hscope : request.scope = (acceptedRequest (p.resolvedId parameters) client
      (parameters.put clientIdParameter (p.resolvedId parameters))).scope := by
    by_cases hasks : ∃ word, AsksFor parameters word
    · exact Scope.ext_mem fun word =>
        (h.asked hasks word).trans (haccepted.asked hasks word).symm
    · exact (h.unasked hasks).trans (haccepted.unasked hasks).symm
  obtain ⟨id, scope, normalized⟩ := request
  cases h.clientId
  cases h.normalized
  cases hscope
  rfl

end Registry

theorem Principal.normalize_of_entitled (h : Entitled parameters principal p) :
    (p.normalize parameters).value =
      .ok (parameters.put clientIdParameter (p.resolvedId parameters)) := by
  by_cases hsent : SendsClientId parameters
  · obtain ⟨id, hid, hne⟩ := hsent
    have heffective : id = p.effectiveClientId := (h.entitled id hid).resolve_left hne
    have hresolved : p.resolvedId parameters = id := by simp [resolvedId, hid, hne]
    rw [hresolved, Table.put_of_get? hid]
    exact (p.normalize_of_sent ⟨id, hid, hne⟩).2 ⟨rfl, heffective ▸ hid⟩
  · have hempty : (parameters.get? clientIdParameter).getD "" = "" := by
      simpa [sendsClientId_iff] using hsent
    have hresolved : p.resolvedId parameters = p.name := by simp [resolvedId, hempty]
    rw [hresolved]
    exact p.normalize_of_not_sent hsent

theorem Client.checkScope_of_excess {c : Client} {requested excess : Scope}
    (hexcess : ∀ word, word ∈ excess ↔ word ∈ requested ∧ word ∉ c.scope)
    (hsome : ∃ word, word ∈ excess) :
    (c.checkScope requested).value = .error (.refused (.scopeNotAllowed excess c.scope)) := by
  obtain rfl : excess = requested.diff c.scope :=
    Scope.ext_mem fun word => (hexcess word).trans Scope.mem_diff.symm
  have hnonempty : ¬ (requested.diff c.scope).isEmpty = true := by
    rw [Scope.isEmpty_iff]
    push Not
    exact hsome
  simp only [checkScope, if_neg hnonempty]

namespace Registry

/-- Once an id is known, the look-up and the scope decide. -/
theorem validate_of_named (h : Named parameters principal p) :
    (r.validate parameters principal).1.value =
      match (r.lookup (p.resolvedId parameters)).1.value with
      | .error f => .error f
      | .ok none => .error (.refused (.unknownClient (p.resolvedId parameters)))
      | .ok (some client) => (validateFor (p.resolvedId parameters) client
          (parameters.put clientIdParameter (p.resolvedId parameters))).value := by
  have hcaller := identified_iff.1 h.toIdentified
  have hnamed : ¬ (p.resolvedId parameters).isEmpty = true := by simpa using h.named
  unfold validate
  simp only [hcaller, Principal.normalize_of_entitled h.toEntitled, Table.get?_put_self,
    Option.getD_some, if_neg hnamed]
  cases (r.lookup (p.resolvedId parameters)).1.value with
  | error f => rfl
  | ok found => cases found <;> rfl

theorem validate_of_grants (h : r.Grants parameters principal p request client) :
    (r.validate parameters principal).1.value = .ok (request, client) := by
  rw [validate_of_named h.toNamed, h.registered]
  refine validateFor_eq_ok_iff.2 ⟨rfl, ?_, h.request_eq⟩
  rw [Client.checkScope_eq_ok_iff, requestedScope_put_clientId]
  intro word hword
  exact h.within word (mem_requestedScope_iff.1 hword)

theorem validate_of_refuses {refusal : Refusal} (h : r.Refuses parameters principal refusal) :
    (r.validate parameters principal).1.value = .error (.refused refusal) := by
  cases h with
  | unauthenticated hnone =>
    have hcaller : Principal.authenticated? principal = none := by
      rw [Option.eq_none_iff_forall_ne_some]
      exact fun p hp => hnone p (identified_iff.2 hp)
    unfold validate
    simp only [hcaller, Logged.silent]
  | @clientMismatch p id hidentified hid hne hother =>
    have hcaller := identified_iff.1 hidentified
    have hsent : ¬ id.isEmpty = true := by simpa using hne
    unfold validate
    simp only [hcaller, Principal.normalize, hid, Option.getD_some, if_neg hsent, if_neg hother]
  | @missingClientId p hentitled hempty =>
    have hcaller := identified_iff.1 hentitled.toIdentified
    unfold validate
    simp only [hcaller, Principal.normalize_of_entitled hentitled, Table.get?_put_self,
      Option.getD_some, hempty]
    rfl
  | unknownClient hnamed hunknown => rw [validate_of_named hnamed, hunknown]
  | scopeNotAllowed hresolves hexcess hsome =>
    have hchecked := Client.checkScope_of_excess
      (fun word => (hexcess word).trans (and_congr_left' mem_requestedScope_iff.symm)) hsome
    rw [validate_of_named hresolves.toNamed, hresolves.registered]
    simp only [validateFor, requestedScope_put_clientId, hchecked]

theorem validate_of_lookup_error {f : Failure} (h : Named parameters principal p)
    (hf : (r.lookup (p.resolvedId parameters)).1.value = .error f) :
    (r.validate parameters principal).1.value = .error f := by
  rw [validate_of_named h, hf]

/-- Every request is granted or refused, or its look-up fails. -/
theorem decided (r : Registry) (parameters : Table String) (principal : Option Principal) :
    (∃ p request client, r.Grants parameters principal p request client) ∨
    (∃ refusal, r.Refuses parameters principal refusal) ∨
    ∃ p f, Named parameters principal p ∧
      (r.lookup (p.resolvedId parameters)).1.value = .error f := by
  -- In the order of validation, so that each refusal finds the earlier conditions met.
  by_cases hidentified : ∃ p, Identified principal p
  case neg => exact .inr (.inl ⟨_, .unauthenticated (not_exists.1 hidentified)⟩)
  obtain ⟨p, hidentified⟩ := hidentified
  by_cases hentitled : ∀ id, parameters.get? clientIdParameter = some id →
      id = "" ∨ id = p.effectiveClientId
  case neg =>
    push Not at hentitled
    obtain ⟨id, hid, hne, hother⟩ := hentitled
    exact .inr (.inl ⟨_, .clientMismatch hidentified hid hne hother⟩)
  have hentitled : Entitled parameters principal p := ⟨hidentified, hentitled⟩
  by_cases hnamed : p.resolvedId parameters = ""
  case pos => exact .inr (.inl ⟨_, .missingClientId hentitled hnamed⟩)
  have hnamed : Named parameters principal p := ⟨hentitled, hnamed⟩
  cases hfound : (r.lookup (p.resolvedId parameters)).1.value with
  | error f => exact .inr (.inr ⟨p, f, hnamed, hfound⟩)
  | ok found =>
    cases found with
    | none => exact .inr (.inl ⟨_, .unknownClient hnamed hfound⟩)
    | some client =>
      have hresolves : r.Resolves parameters principal p client := ⟨hnamed, hfound⟩
      by_cases hwithin : ∀ word, AsksFor parameters word → word ∈ client.scope
      · exact .inl ⟨p, _, client, grants_acceptedRequest hresolves hwithin⟩
      · push Not at hwithin
        obtain ⟨word, hasks, hword⟩ := hwithin
        have hexcess : ∀ word, word ∈ (requestedScope parameters).diff client.scope ↔
            AsksFor parameters word ∧ word ∉ client.scope := by
          intro word
          rw [Scope.mem_diff, mem_requestedScope_iff]
        exact .inr (.inl ⟨_, .scopeNotAllowed hresolves hexcess
          ⟨word, (hexcess word).2 ⟨hasks, hword⟩⟩⟩)

/-! ## The decision -/

theorem validate_eq_ok_iff_grants :
    (r.validate parameters principal).1.value = .ok (request, client) ↔
      ∃ p, r.Grants parameters principal p request client := by
  constructor
  · intro h
    rcases r.decided parameters principal with
      ⟨p, request', client', hgrants⟩ | ⟨refusal, hrefuses⟩ | ⟨p, f, hnamed, hf⟩
    · rw [validate_of_grants hgrants] at h
      cases h
      exact ⟨p, hgrants⟩
    · rw [validate_of_refuses hrefuses] at h
      cases h
    · rw [validate_of_lookup_error hnamed hf] at h
      cases h
  · rintro ⟨p, hgrants⟩
    exact validate_of_grants hgrants

theorem validate_eq_refused_iff {refusal : Refusal} :
    (r.validate parameters principal).1.value = .error (.refused refusal) ↔
      r.Refuses parameters principal refusal := by
  constructor
  · intro h
    rcases r.decided parameters principal with
      ⟨p, request', client', hgrants⟩ | ⟨refusal', hrefuses⟩ | ⟨p, f, hnamed, hf⟩
    · rw [validate_of_grants hgrants] at h
      cases h
    · rw [validate_of_refuses hrefuses] at h
      cases h
      exact hrefuses
    · rw [validate_of_lookup_error hnamed hf] at h
      cases h
      exact absurd hf (lookup_ne_refused _ _)
  · exact validate_of_refuses

/-- Validation breaks off without a decision exactly if all conditions up to the look-up are met and
the registry cannot read its file. -/
theorem validate_breaks_iff :
    (∃ f, (r.validate parameters principal).1.value = .error f ∧ ∀ refusal, f ≠ .refused refusal) ↔
      (∃ p, Named parameters principal p) ∧ r.IsUnreadable := by
  constructor
  · rintro ⟨f, h, hother⟩
    rcases r.decided parameters principal with
      ⟨p, request', client', hgrants⟩ | ⟨refusal, hrefuses⟩ | ⟨p, f', hnamed, hf⟩
    · rw [validate_of_grants hgrants] at h
      cases h
    · rw [validate_of_refuses hrefuses] at h
      cases h
      exact absurd rfl (hother refusal)
    · exact ⟨⟨p, hnamed⟩, (lookup_eq_error_iff _).1 ⟨f', hf⟩⟩
  · rintro ⟨⟨p, hnamed⟩, hunreadable⟩
    obtain ⟨f, hf⟩ := (lookup_eq_error_iff (p.resolvedId parameters)).2 hunreadable
    refine ⟨f, validate_of_lookup_error hnamed hf, ?_⟩
    rintro refusal rfl
    exact lookup_ne_refused _ _ hf

/-- The decision about a request, for all parameters, callers and registries. It is accepted exactly
if the caller is there and authenticated, an id that it sends is its own, the id that results is not
empty and is registered, and every word of the scope parameter is in the scope of the client; the
client and the accepted request are then as `Grants` says. It is refused exactly for the first of
these conditions that is not met, with the error that `Refuses` gives for it. What else can happen
is that the file of the registry cannot be read when a client is looked up in it. -/
theorem validate_decides (r : Registry) (parameters : Table String)
    (principal : Option Principal) :
    let out := (r.validate parameters principal).1.value
    ((∃ accepted, out = .ok accepted) ↔ ∃ p client, r.Resolves parameters principal p client ∧
      ∀ word, AsksFor parameters word → word ∈ client.scope) ∧
    (∀ request client, out = .ok (request, client) ↔
      ∃ p, r.Grants parameters principal p request client) ∧
    (∀ refusal, out = .error (.refused refusal) ↔ r.Refuses parameters principal refusal) ∧
    ((∃ f, out = .error f ∧ ∀ refusal, f ≠ .refused refusal) ↔
      (∃ p, Named parameters principal p) ∧ r.IsUnreadable) := by
  intro out
  refine ⟨?_, fun _ _ => validate_eq_ok_iff_grants, fun _ => validate_eq_refused_iff,
    validate_breaks_iff⟩
  constructor
  · rintro ⟨⟨request, client⟩, h⟩
    obtain ⟨p, hgrants⟩ := validate_eq_ok_iff_grants.1 h
    exact ⟨p, client, hgrants.toResolves, hgrants.within⟩
  · rintro ⟨p, client, hresolves, hwithin⟩
    exact ⟨_, validate_of_grants (grants_acceptedRequest hresolves hwithin)⟩

/-- A text in which an entry beside that of the app lists a list in its scope. -/
def nestedScopeText : String :=
  "clients: \x7bbroken: \x7bscope: [[x]]\x7d, app: \x7bscope: [read]\x7d\x7d"

/-- The clients file of this text. -/
def nestedScopeFile : ClientsFile := .octets (Text.utf8 nestedScopeText)

set_option maxRecDepth 4000 in
theorem load?_nestedScopeText :
    Yaml.load? (ClientsFile.unifyLineEnds nestedScopeText.toList) =
      some (.map (Client.sampleConfig [Client.sampleEntry "broken" [.list [.text "x"]],
        Client.sampleEntry "app" [.text "read"]])) := by
  cbv

theorem load_nestedScopeFile (path : String) : nestedScopeFile.load path =
    .silent (Client.sampleConfig [Client.sampleEntry "broken" [.list [.text "x"]],
      Client.sampleEntry "app" [.text "read"]]) := by
  have htext : Text.utf8Decode? (Text.utf8 nestedScopeText) = some nestedScopeText := by
    decide +kernel
  simp only [nestedScopeFile, ClientsFile.load, ClientsFile.Parser.value?, ClientsFile.value?, htext,
    Option.bind_eq_bind, Option.bind_some, load?_nestedScopeText]

/-- The app sends its own id, but the validation ends with neither an acceptance nor a refusal. -/
theorem validate_of_nested_scope :
    ((Registry.file "clients.yml" nestedScopeFile none).validate
      (.ofList [(clientIdParameter, "app")]) (some (.client "app" true))).1.value =
        .error (.notMember "list") := by
  have hclients : nestedScopeFile.clients "clients.yml" = .error (.notMember "list") := by
    rw [ClientsFile.clients, load_nestedScopeFile]
    rfl
  have hnamed : Named (.ofList [(clientIdParameter, "app")]) (some (.client "app" true))
      (.client "app" true) := by
    refine ⟨⟨⟨rfl, rfl⟩, ?_⟩, by decide⟩
    rintro id ⟨⟩
    exact .inr rfl
  exact validate_of_lookup_error hnamed (lookup_of_error hclients _).1

end Registry

end DeviceGrant
