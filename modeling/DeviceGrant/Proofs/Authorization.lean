import DeviceGrant.Proofs.Issuing
import DeviceGrant.Service
set_option autoImplicit false

/-! # What an authorization leaves in the store

A request is validated, codes are issued, and the answer is built. Validating does not touch the
store, and issuing changes it only by the record whose codes it gives; but the answer is built
after the record has been stored, and building fails when an override of the client can be
neither read nor passed over (`Client.HasBrokenOverride`). So a failed authorization leaves the
store as it was except for this one case, in which the record stays behind although its codes
reach nobody: `failed_authorize_keeps_store_iff`. -/

namespace DeviceGrant

/-! ## Overrides -/

/-- An override that can be neither read nor passed over: its reader has no result, or does not
accept it and the warning cannot quote it. -/
def Override.Fails {α : Type} (read : Value → Except Failure (Option α)) (raw : Value) : Prop :=
  raw ≠ .null ∧ ((∃ f, read raw = .error f) ∨ read raw = .ok none ∧ raw.isPrintable = false)

/-- Whether a default takes the place of an override or not, only the override decides whether
there is a value. -/
theorem Override.resolve_error_iff {α : Type} (read : Value → Except Failure (Option α))
    (raw : Value) (default : α) (name : String) :
    (∃ f, (resolve read raw default name).value = .error f) ↔ Fails read raw := by
  by_cases hnull : raw = .null
  · subst hnull
    simp [resolve, Fails, Logged.silent]
  · rcases hread : read raw with f | _ | a
    · simp [resolve, Fails, hnull, hread, Logged.silent]
    · cases hprint : raw.isPrintable <;>
        simp [resolve, Fails, hnull, hread, hprint, Logged.silent]
    · simp [resolve, Fails, hnull, hread, Logged.silent]

/-- A client whose registration has an override that can be neither read nor passed over. -/
def Client.HasBrokenOverride (c : Client) : Prop :=
  Override.Fails Override.absoluteUrl c.verificationUriOverride ∨
    Override.Fails Override.positiveInt c.intervalOverride

/-! ## The answer -/

namespace DeviceResponse

variable {userCode deviceCode path : String} {client : Client} {context : RequestContext}
  {defaultInterval expiresIn : Int}

/-- Only the overrides of the client decide whether there is an answer. -/
theorem build_error_iff :
    (∃ f, (build userCode deviceCode client context path defaultInterval expiresIn).value =
      .error f) ↔ client.HasBrokenOverride := by
  unfold Client.HasBrokenOverride
  rw [← Override.resolve_error_iff Override.absoluteUrl client.verificationUriOverride
      (Override.derivedUri context.baseUrl path) verificationUriKey,
    ← Override.resolve_error_iff Override.positiveInt client.intervalOverride defaultInterval
      intervalKey]
  change _ ↔ (∃ f, (Override.verificationUri client context path).value = .error f) ∨
    ∃ f, (Override.interval client defaultInterval).value = .error f
  cases huri : (Override.verificationUri client context path).value with
  | error f => simp [build, huri]
  | ok uri =>
    cases hinterval : (Override.interval client defaultInterval).value with
    | error f => simp [build, huri, hinterval]
    | ok n => simp [build, huri, hinterval]

/-- An answer carries the codes and the lifetime it was built for. -/
theorem exists_eq_of_build {a : DeviceResponse}
    (h : (build userCode deviceCode client context path defaultInterval expiresIn).value = .ok a) :
    ∃ uri interval, a = ⟨deviceCode, userCode, uri, interval, expiresIn⟩ := by
  cases huri : (Override.verificationUri client context path).value with
  | error f => simp [build, huri] at h
  | ok uri =>
    cases hinterval : (Override.interval client defaultInterval).value with
    | error f => simp [build, huri, hinterval] at h
    | ok n =>
      simp only [build, huri, hinterval, Except.ok.injEq] at h
      exact ⟨uri, n, h.symm⟩

theorem codes_of_build {a : DeviceResponse}
    (h : (build userCode deviceCode client context path defaultInterval expiresIn).value = .ok a) :
    a.userCode = userCode ∧ a.deviceCode = deviceCode := by
  obtain ⟨uri, interval, rfl⟩ := exists_eq_of_build h
  exact ⟨rfl, rfl⟩

end DeviceResponse

/-! ## The three steps -/

namespace Service

variable (v : Service) (now : Instant) (context : RequestContext) {parameters : Table String}
  {principal : Option Principal} {request : AuthorizationRequest} {client : Client}

/-- A request that is not accepted ends before anything is issued. -/
theorem authorize_of_refused {s : ServiceState} {f : Failure}
    (h : (s.registry.validate parameters principal).1.value = .error f) :
    (v.authorize now parameters principal context s).1.value = .error f ∧
    (v.authorize now parameters principal context s).2.issuance = s.issuance := by
  simp only [authorize, h, and_self]

/-- An accepted request ends where issuing its codes ends. -/
theorem authorize_of_issue_error {s : ServiceState} {f : Failure}
    (h : (s.registry.validate parameters principal).1.value = .ok (request, client))
    (hissue : (v.issuer.issue v.codes now request s.issuance).1.value = .error f) :
    (v.authorize now parameters principal context s).1.value = .error f ∧
    (v.authorize now parameters principal context s).2.issuance =
      (v.issuer.issue v.codes now request s.issuance).2 := by
  simp only [authorize, h, hissue, and_self]

/-- With the codes issued, only the answer is left to build. -/
theorem authorize_of_issued {s : ServiceState} {userCode deviceCode : String}
    (h : (s.registry.validate parameters principal).1.value = .ok (request, client))
    (hissue : (v.issuer.issue v.codes now request s.issuance).1.value =
      .ok (userCode, deviceCode)) :
    (v.authorize now parameters principal context s).1.value =
      (DeviceResponse.build userCode deviceCode client context v.verificationPath
        v.defaultInterval v.issuer.expirySeconds).value ∧
    (v.authorize now parameters principal context s).2.issuance =
      (v.issuer.issue v.codes now request s.issuance).2 := by
  simp only [authorize, h, hissue, and_self]

/-! ## Over the store in memory -/

section Memory

variable {registry : Registry} {m : MemoryStore} {drawn k : Nat} {r : DeviceRecord}

/-- Number `k` is the first pair of an authorization's attempts that no live record holds, and `r`
is its record. -/
abbrev Issues (v : Service) (now : Instant) (request : AuthorizationRequest) (m : MemoryStore)
    (drawn k : Nat) (r : DeviceRecord) : Prop :=
  v.issuer.FirstFree v.codes now request m drawn v.issuer.maxAttempts.toNat k r

theorem authorize_of_none_free
    (h : (registry.validate parameters principal).1.value = .ok (request, client))
    (hnone : ∀ k r, ¬ v.Issues now request m drawn k r) :
    (∃ f, (v.authorize now parameters principal context
      ⟨registry, .memory m, drawn⟩).1.value = .error f) ∧
    (v.authorize now parameters principal context
      ⟨registry, .memory m, drawn⟩).2.issuance.store = .memory m := by
  obtain ⟨⟨f, hvalue⟩, hstore⟩ := Issuer.issue_of_none_free hnone
  obtain ⟨hanswer, hissuance⟩ :=
    authorize_of_issue_error v now context (s := ⟨registry, .memory m, drawn⟩) h hvalue
  exact ⟨⟨f, hanswer⟩, by rw [hissuance]; exact hstore⟩

theorem authorize_of_issues
    (h : (registry.validate parameters principal).1.value = .ok (request, client))
    (hk : v.Issues now request m drawn k r) :
    (v.authorize now parameters principal context ⟨registry, .memory m, drawn⟩).1.value =
      (DeviceResponse.build r.userCode r.deviceCode client context v.verificationPath
        v.defaultInterval v.issuer.expirySeconds).value ∧
    (v.authorize now parameters principal context
      ⟨registry, .memory m, drawn⟩).2.issuance.store = .memory ((m.reclaim r).put r) := by
  obtain ⟨hvalue, hafter⟩ := Issuer.issue_of_firstFree hk
  obtain ⟨hanswer, hissuance⟩ :=
    authorize_of_issued v now context (s := ⟨registry, .memory m, drawn⟩) h hvalue
  exact ⟨hanswer, by rw [hissuance, hafter]⟩

/-- An authorization over a store in memory either fails and leaves the store as it was, or gets
as far as storing the record of its first free pair. -/
theorem authorize_cases (parameters : Table String) (principal : Option Principal)
    (registry : Registry) (m : MemoryStore) (drawn : Nat) :
    ((∃ f, (v.authorize now parameters principal context
        ⟨registry, .memory m, drawn⟩).1.value = .error f) ∧
      (v.authorize now parameters principal context
        ⟨registry, .memory m, drawn⟩).2.issuance.store = .memory m) ∨
    ∃ request client k r,
      (registry.validate parameters principal).1.value = .ok (request, client) ∧
      v.Issues now request m drawn k r := by
  cases h : (registry.validate parameters principal).1.value with
  | error f =>
    obtain ⟨hanswer, hissuance⟩ :=
      authorize_of_refused v now context (s := ⟨registry, .memory m, drawn⟩) h
    exact .inl ⟨⟨f, hanswer⟩, by rw [hissuance]⟩
  | ok accepted =>
    obtain ⟨request, client⟩ := accepted
    by_cases hsome : ∃ k r, v.Issues now request m drawn k r
    · obtain ⟨k, r, hk⟩ := hsome
      exact .inr ⟨request, client, k, r, rfl, hk⟩
    · have hnone : ∀ k r, ¬ v.Issues now request m drawn k r :=
        fun k r hk => hsome ⟨k, r, hk⟩
      exact .inl (authorize_of_none_free v now context h hnone)

/-- An answer is built for the record of the first free pair, which has been stored. -/
theorem exists_issues_of_answer {a : DeviceResponse}
    (ha : (v.authorize now parameters principal context
      ⟨registry, .memory m, drawn⟩).1.value = .ok a) :
    ∃ request client k r, (registry.validate parameters principal).1.value = .ok (request, client) ∧
      v.Issues now request m drawn k r ∧
      (DeviceResponse.build r.userCode r.deviceCode client context v.verificationPath
        v.defaultInterval v.issuer.expirySeconds).value = .ok a ∧
      (v.authorize now parameters principal context
        ⟨registry, .memory m, drawn⟩).2.issuance.store = .memory ((m.reclaim r).put r) := by
  rcases v.authorize_cases now context parameters principal registry m drawn with
    ⟨⟨f, hf⟩, _⟩ | ⟨request, client, k, r, hvalid, hk⟩
  · rw [hf] at ha
    cases ha
  · obtain ⟨hanswer, hstore⟩ := authorize_of_issues v now context hvalid hk
    exact ⟨request, client, k, r, hvalid, hk, hanswer.symm.trans ha, hstore⟩

/-- A failed authorization leaves the store as it was except in one case: the request was accepted
for a client with a broken override and a free pair was found. Then the record of that pair stays
in the store and the caller gets a failure; if the record is live, the store is not what it was.
An authorization with an answer has stored the record of the two codes in the answer. -/
theorem failed_authorize_keeps_store_iff (v : Service) (now : Instant)
    (parameters : Table String) (principal : Option Principal) (context : RequestContext)
    (registry : Registry) (m : MemoryStore) (drawn : Nat) :
    let out := v.authorize now parameters principal context ⟨registry, .memory m, drawn⟩
    let validated := (registry.validate parameters principal).1.value
    ((∀ f, out.1.value = .error f → out.2.issuance.store = .memory m) ↔
      ∀ request client k r, validated = .ok (request, client) → client.HasBrokenOverride →
        v.Issues now request m drawn k r → (m.reclaim r).put r = m) ∧
    (∀ request client k r, validated = .ok (request, client) → client.HasBrokenOverride →
      v.Issues now request m drawn k r →
        (∃ f, out.1.value = .error f) ∧
        out.2.issuance.store = .memory ((m.reclaim r).put r) ∧
        (r.isLive now = true → (m.reclaim r).put r ≠ m)) ∧
    ∀ a, out.1.value = .ok a → ∃ request client k r, validated = .ok (request, client) ∧
      v.Issues now request m drawn k r ∧
      a.userCode = r.userCode ∧ a.deviceCode = r.deviceCode ∧
      out.2.issuance.store = .memory ((m.reclaim r).put r) := by
  intro out validated
  have hbroken : ∀ request client k r, validated = .ok (request, client) →
      client.HasBrokenOverride → v.Issues now request m drawn k r →
        (∃ f, out.1.value = .error f) ∧
        out.2.issuance.store = .memory ((m.reclaim r).put r) := by
    intro request client k r hvalid hclient hk
    obtain ⟨hanswer, hstore⟩ := authorize_of_issues v now context hvalid hk
    obtain ⟨f, hf⟩ := DeviceResponse.build_error_iff.2 hclient
    exact ⟨⟨f, hanswer.trans hf⟩, hstore⟩
  refine ⟨⟨?_, ?_⟩, ?_, ?_⟩
  · intro hkeeps request client k r hvalid hclient hk
    obtain ⟨⟨f, hf⟩, hstore⟩ := hbroken request client k r hvalid hclient hk
    rw [hkeeps f hf] at hstore
    exact (Store.memory.inj hstore).symm
  · intro hsame f hf
    rcases v.authorize_cases now context parameters principal registry m drawn with
      ⟨_, hstore⟩ | ⟨request, client, k, r, hvalid, hk⟩
    · exact hstore
    · -- Only building the answer can have failed.
      obtain ⟨hanswer, hstore⟩ := authorize_of_issues v now context hvalid hk
      have hclient := DeviceResponse.build_error_iff.1 ⟨f, hanswer.symm.trans hf⟩
      exact hstore.trans (congrArg _ (hsame request client k r hvalid hclient hk))
  · intro request client k r hvalid hclient hk
    obtain ⟨hfails, hstore⟩ := hbroken request client k r hvalid hclient hk
    exact ⟨hfails, hstore, MemoryStore.reclaim_put_ne hk.free⟩
  · intro a ha
    obtain ⟨request, client, k, r, hvalid, hk, hbuild, hstore⟩ :=
      exists_issues_of_answer v now context ha
    obtain ⟨huser, hdevice⟩ := DeviceResponse.codes_of_build hbuild
    exact ⟨request, client, k, r, hvalid, hk, huser, hdevice, hstore⟩

end Memory

/-! ### A broken override -/

/-- A client whose address override opens a bracket that nothing closes. -/
def bracketClient : Client :=
  ⟨"tv", .empty, .ofList [(verificationUriKey, .text "http://[")]⟩

/-- That client asks for codes while the store is empty. -/
def bracketAuthorization : Logged (Except Failure DeviceResponse) × ServiceState :=
  authorize ⟨⟨600, 10⟩, ⟨fun _ => "d", fun _ => "u"⟩, 2, "user_verify"⟩ (.whole 1000) .empty
    (some (.client "tv" true)) ⟨"https://host/oauth/device_authorize"⟩
    ⟨.ofClients [bracketClient], .memory .empty, 0⟩

/-- The authorization fails, and the record of its codes is in the store. -/
theorem failed_authorize_leaves_record :
    bracketAuthorization.1.value = .error (.url .brackets) ∧
      bracketAuthorization.2.issuance.store ≠ .memory .empty := by
  constructor <;> decide

end Service

end DeviceGrant
