import DeviceGrant.Proofs.Registry
import DeviceGrant.Validator
set_option autoImplicit false

/-! # What an accepted request has passed

`Registry.Accepted` lists the conditions under which a request is accepted, and `validate_eq_ok_iff`
proves that there are no others. Which client the request is then for follows from the first three:
a client id that was sent is one the caller may ask for, and without one the caller's own name takes
its place. -/

namespace DeviceGrant

/-! ## The client id of a request -/

/-- Parameters that carry a client id; an empty one counts as none. -/
def SendsClientId (parameters : Table String) : Prop :=
  ∃ id, parameters.get? clientIdParameter = some id ∧ id ≠ ""

theorem sendsClientId_iff {parameters : Table String} :
    SendsClientId parameters ↔ (parameters.get? clientIdParameter).getD "" ≠ "" := by
  unfold SendsClientId
  cases parameters.get? clientIdParameter <;> simp

namespace Principal

variable {p : Principal} {parameters normalized : Table String}

theorem normalize_of_sent (h : SendsClientId parameters) :
    (p.normalize parameters).value = .ok normalized ↔
      normalized = parameters ∧
        parameters.get? clientIdParameter = some p.effectiveClientId := by
  obtain ⟨id, hid, hne⟩ := h
  have hsent : ¬ id.isEmpty = true := by simpa using hne
  unfold normalize
  simp only [hid, Option.getD_some, Option.some.injEq]
  rw [if_neg hsent]
  split
  · next heq => simp [Logged.silent, heq, eq_comm]
  · next hother => simp [hother]

theorem normalize_of_not_sent (h : ¬ SendsClientId parameters) :
    (p.normalize parameters).value = .ok (parameters.put clientIdParameter p.name) := by
  have hempty : ((parameters.get? clientIdParameter).getD "").isEmpty = true := by
    simpa [sendsClientId_iff] using h
  unfold normalize
  rw [if_pos hempty]
  rfl

theorem authenticated?_eq_some_iff {q : Option Principal} :
    authenticated? q = some p ↔ q = some p ∧ p.isAuthenticated = true := by
  simp [authenticated?, Option.filter_eq_some_iff]

end Principal

/-! ## Acceptance -/

namespace Registry

variable {r : Registry} {parameters : Table String} {principal : Option Principal}
  {request : AuthorizationRequest} {client : Client}

/-- Everything that was found out about a request before it was accepted. -/
structure Accepted (r : Registry) (parameters : Table String) (principal : Option Principal)
    (request : AuthorizationRequest) (client : Client) (p : Principal) : Prop where
  caller : principal = some p
  authenticated : p.isAuthenticated = true
  normalized : (p.normalize parameters).value = .ok request.parameters
  named : request.parameters.get? clientIdParameter = some request.clientId
  nonempty : request.clientId ≠ ""
  registered : (r.lookup request.clientId).1.value = .ok (some client)
  allowed : (client.checkScope (requestedScope request.parameters)).value = .ok ()
  granted : request = acceptedRequest request.clientId client request.parameters

theorem validateFor_eq_ok_iff {id : String} {found : Client} {normalized : Table String} :
    (validateFor id found normalized).value = .ok (request, client) ↔
      found = client ∧ (client.checkScope (requestedScope normalized)).value = .ok () ∧
        request = acceptedRequest id client normalized := by
  unfold validateFor
  simp only
  cases hcheck : (found.checkScope (requestedScope normalized)).value with
  | error f =>
    constructor
    · intro h
      cases h
    · rintro ⟨rfl, hok, _⟩
      rw [hcheck] at hok
      cases hok
  | ok u =>
    constructor
    · intro h
      cases h
      exact ⟨rfl, hcheck, rfl⟩
    · rintro ⟨rfl, _, rfl⟩
      rfl

/-- Acceptance needs all of the conditions, and no more. -/
theorem validate_eq_ok_iff :
    (r.validate parameters principal).1.value = .ok (request, client) ↔
      ∃ p, r.Accepted parameters principal request client p := by
  constructor
  · intro h
    unfold validate at h
    split at h
    · simp [Logged.silent] at h
    · next p hp =>
      obtain ⟨hcaller, hauth⟩ := Principal.authenticated?_eq_some_iff.1 hp
      simp only at h
      split at h
      · cases h
      · next normalized hnormalized =>
        split at h
        · cases h
        · next hnonempty =>
          split at h
          · cases h
          · cases h
          · next found hfound =>
            obtain ⟨rfl, hallowed, rfl⟩ := validateFor_eq_ok_iff.1 h
            -- What is looked up is the entry itself, since the default would be empty.
            have hne : (normalized.get? clientIdParameter).getD "" ≠ "" := by
              simpa using hnonempty
            obtain ⟨id, hid, _⟩ := sendsClientId_iff.2 hne
            exact ⟨p, hcaller, hauth, hnormalized, by simp [acceptedRequest, hid], hne, hfound,
              hallowed, rfl⟩
  · rintro ⟨p, h⟩
    have hp := Principal.authenticated?_eq_some_iff.2 ⟨h.caller, h.authenticated⟩
    have hnonempty : ¬ request.clientId.isEmpty = true := by simpa using h.nonempty
    have haccepted := validateFor_eq_ok_iff.2 ⟨rfl, h.allowed, h.granted⟩
    unfold validate
    simp only [hp, h.normalized, h.named, Option.getD_some, if_neg hnonempty, h.registered,
      haccepted]

/-! ## Whose client it is -/

/-- A caller obtains an authorization for the client id that it sent, which is then the one it may
ask for, and else for the client of its own name. -/
theorem accepted_client_id (hr : r.Arises)
    (h : (r.validate parameters principal).1.value = .ok (request, client)) :
    ∃ p, principal = some p ∧ p.isAuthenticated = true ∧
      request.clientId = client.clientId ∧
      request.parameters.get? clientIdParameter = some client.clientId ∧
      (SendsClientId parameters → client.clientId = p.effectiveClientId) ∧
      (¬ SendsClientId parameters → client.clientId = p.name) ∧
      (client.clientId = p.effectiveClientId ↔
        SendsClientId parameters ∨ p.name = p.effectiveClientId) ∧
      ∀ name authenticated, p = .client name authenticated →
        client.clientId = p.effectiveClientId := by
  obtain ⟨p, haccepted⟩ := validate_eq_ok_iff.1 h
  have hid : client.clientId = request.clientId :=
    (hr.keyed.lookup request.clientId).2 client haccepted.registered
  have hnamed := haccepted.named
  rw [← hid] at hnamed
  have hsent : SendsClientId parameters → client.clientId = p.effectiveClientId := by
    intro hs
    obtain ⟨hsame, heffective⟩ := (Principal.normalize_of_sent hs).1 haccepted.normalized
    rw [hsame, heffective] at hnamed
    exact (Option.some.inj hnamed).symm
  have hdefault : ¬ SendsClientId parameters → client.clientId = p.name := by
    intro hs
    have hput := haccepted.normalized
    rw [Principal.normalize_of_not_sent hs, Except.ok.injEq] at hput
    rw [← hput, Table.get?_put_self] at hnamed
    exact (Option.some.inj hnamed).symm
  have hiff : client.clientId = p.effectiveClientId ↔
      SendsClientId parameters ∨ p.name = p.effectiveClientId := by
    constructor
    · intro heq
      by_cases hs : SendsClientId parameters
      · exact .inl hs
      · exact .inr ((hdefault hs).symm.trans heq)
    · rintro (hs | heq)
      · exact hsent hs
      · by_cases hs : SendsClientId parameters
        · exact hsent hs
        · exact (hdefault hs).trans heq
  refine ⟨p, haccepted.caller, haccepted.authenticated, hid.symm, hnamed, hsent, hdefault, hiff, ?_⟩
  rintro name authenticated rfl
  exact hiff.2 (.inr rfl)

/-- Two registered apps. -/
def twoApps : Registry :=
  .ofClients [⟨"device-app-1", .parse "read", .empty⟩, ⟨"device-app-2", .parse "admin", .empty⟩]

/-- A user with a token of the first app who sends its client id is accepted for it. -/
theorem accepted_client_id_of_token :
    ∃ request client,
      (twoApps.validate (.ofList [(clientIdParameter, "device-app-1")])
        (some (.clientUser "device-app-2" "device-app-1" true))).1.value = .ok (request, client) ∧
      client.clientId = "device-app-1" := by
  refine ⟨_, _, rfl, ?_⟩
  obtain ⟨p, hp, _, _, _, hsent, _⟩ := accepted_client_id (.ofClients _)
    (show (twoApps.validate (.ofList [(clientIdParameter, "device-app-1")])
      (some (.clientUser "device-app-2" "device-app-1" true))).1.value = .ok (_, _) from rfl)
  cases hp
  exact hsent ⟨"device-app-1", rfl, by decide⟩

/-- The same user is accepted for the second app, whose id is the user's name, when it sends no
client id. -/
theorem accepted_for_app_of_own_name :
    ∃ request client,
      (twoApps.validate .empty (some (.clientUser "device-app-2" "device-app-1" true))).1.value =
        .ok (request, client) ∧
      request.clientId = "device-app-2" ∧ client.clientId = "device-app-2" ∧
      request.parameters.get? clientIdParameter = some "device-app-2" ∧
      request.clientId ≠ (Principal.clientUser "device-app-2" "device-app-1" true).effectiveClientId :=
  ⟨_, _, rfl, rfl, rfl, rfl, by decide⟩

end Registry

end DeviceGrant
