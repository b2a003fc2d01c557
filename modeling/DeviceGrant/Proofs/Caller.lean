import DeviceGrant.Proofs.Decision
import DeviceGrant.Proofs.IssuanceLog
import DeviceGrant.Proofs.Override
import DeviceGrant.Proofs.Settings
set_option autoImplicit false

/-! # Who counts as the caller

The caller of a request is described by data from earlier handling, which may be any JSON. Only an
object of one of two kinds describes one, with names that are texts and an `authenticated` field
that is absent or counts as a boolean (`Principal.Describes`). All other data count as no caller,
and a request without an authenticated caller is refused before anything happens. So no data get
past the gate but those that describe an authenticated caller (`resolution_fails_closed`). -/

namespace DeviceGrant

/-! ## Fields of an object -/

namespace Value

/-- A text is the same key as nothing but itself. -/
theorem sameKey_text_iff {key : Value} {name : String} :
    sameKey key (.text name) = true ↔ key = .text name := by
  cases key with
  | text s => simp [sameKey_text]
  | float x =>
    cases hx : x.toInt? <;> simp [sameKey, asNumber?, hx]
  | _ => simp [sameKey, asNumber?]

theorem field?_cons (name : String) (key v : Value) (es : List (Value × Value)) :
    field? name ((key, v) :: es) =
      if sameKey key (.text name) = true then some v else field? name es := by
  rw [field?, find?, List.find?_cons]
  cases sameKey key (.text name) <;> rfl

theorem field?_putEntry (name k : String) (v : Value) (es : List (Value × Value)) :
    field? name (putEntry (.text k) v es) = if k = name then some v else field? name es := by
  induction es with
  | nil => simp [putEntry, field?, find?, sameKey_text]
  | cons e es ih =>
    obtain ⟨key, w⟩ := e
    unfold putEntry
    by_cases hsame : sameKey key (.text k) = true
    · obtain rfl := sameKey_text_iff.1 hsame
      rw [if_pos hsame, field?_cons, field?_cons, sameKey_text]
      by_cases hname : k = name <;> simp [hname]
    · rw [if_neg hsame, field?_cons, field?_cons, ih]
      by_cases hkey : sameKey key (.text name) = true
      · have hname : k ≠ name := fun h => hsame (h ▸ hkey)
        rw [if_pos hkey, if_pos hkey, if_neg hname]
      · rw [if_neg hkey, if_neg hkey]

/-- The later of two fields with one name holds. -/
theorem field?_ofJsonEntries (name : String) (before : List (Value × Value))
    (es : List (String × Json)) :
    field? name (ofJsonEntries before es) =
      (((Json.object es).field? name).map ofJson).or (field? name before) := by
  induction es generalizing before with
  | nil => rfl
  | cons e es ih =>
    obtain ⟨k, j⟩ := e
    -- The later fields are looked up first, then this one, and last what was put before.
    rw [ofJsonEntries, ih, field?_putEntry]
    simp only [Json.field?, List.reverse_cons, List.find?_append, List.find?_cons, List.find?_nil]
    cases es.reverse.find? fun e => e.1 = name with
    | some e => rfl
    | none => by_cases hk : k = name <;> simp [hk]

theorem field?_ofJson_object (name : String) (es : List (String × Json)) :
    field? name (ofJsonEntries [] es) = ((Json.object es).field? name).map ofJson := by
  rw [field?_ofJsonEntries, field?, find?, List.find?_nil, Option.map_none, Option.or_none]

end Value

/-! ## Texts and booleans -/

/-- The words for a boolean, in small letters. -/
def boolWords : Bool → List String
  | false => ["0", "off", "f", "false", "n", "no"]
  | true => ["1", "on", "t", "true", "y", "yes"]

/-- The data that count as a boolean: itself, zero or one as a whole number or as a fraction, and a
word for it in either case. -/
inductive CountsAs : Json → Bool → Prop
  | bool (b : Bool) : CountsAs (.bool b) b
  | zero : CountsAs (.int 0) false
  | one : CountsAs (.int 1) true
  | float {x : Number.Binary64} {n : Int} {b : Bool} (whole : x.toInt? = some n)
      (counts : CountsAs (.int n) b) : CountsAs (.float x) b
  | word {s : String} {b : Bool} (word : Text.lowerAscii s ∈ boolWords b) : CountsAs (.text s) b

namespace Check

theorem text_ofJson_eq_ok_iff {j : Json} {s : String} :
    text (.ofJson j) = .ok s ↔ j = .text s := by
  cases j <;> simp [Value.ofJson, text, Checked.issue]

theorem boolOfInt_eq_ok_iff {n : Int} {b : Bool} : boolOfInt n = .ok b ↔ CountsAs (.int n) b := by
  unfold boolOfInt
  constructor
  · intro h
    split at h
    · next hzero =>
      cases h
      exact hzero ▸ .zero
    · split at h
      · next hone =>
        cases h
        exact hone ▸ .one
      · split at h <;> cases h
  · rintro (_ | _ | _) <;> rfl

theorem boolWord?_eq_some_iff {s : String} {b : Bool} :
    boolWord? s = some b ↔ Text.lowerAscii s ∈ boolWords b := by
  unfold boolWord?
  generalize Text.lowerAscii s = w
  constructor
  · intro h
    dsimp only at h
    split at h
    · next hno =>
      cases h
      simpa [boolWords] using hno
    · split at h
      · next hyes =>
        cases h
        simpa [boolWords] using hyes
      · cases h
  · intro h
    cases b <;> simp only [boolWords, List.mem_cons, List.not_mem_nil, or_false] at h <;>
      rcases h with rfl | rfl | rfl | rfl | rfl | rfl <;> decide

theorem bool_ofJson_eq_ok_iff {j : Json} {b : Bool} :
    bool (.ofJson j) = .ok b ↔ CountsAs j b := by
  cases j with
  | bool c =>
    constructor
    · rintro ⟨⟩
      exact .bool _
    · rintro ⟨⟩
      rfl
  | int n => exact boolOfInt_eq_ok_iff
  | float x =>
    rw [Value.ofJson, bool]
    cases hx : x.toInt? with
    | none =>
      constructor
      · rintro ⟨⟩
      · rintro ⟨⟩
        simp_all
    | some n =>
      simp only [boolOfInt_eq_ok_iff]
      constructor
      · exact .float hx
      · rintro ⟨⟩
        simp_all
  | text s =>
    rw [Value.ofJson, bool]
    constructor
    · intro h
      split at h
      · next hword =>
        cases h
        exact .word (boolWord?_eq_some_iff.1 hword)
      · cases h
    · rintro (_ | _ | _ | _ | hword)
      rw [boolWord?_eq_some_iff.2 hword]
  | _ => constructor <;> rintro ⟨⟩

end Check

/-! ## Callers -/

namespace Principal

/-- Whether a caller is authenticated, according to its data: it is, unless they say otherwise. -/
inductive SaysAuthenticated (j : Json) : Bool → Prop
  | byDefault (absent : j.field? "authenticated" = none) : SaysAuthenticated j true
  | given {v : Json} {b : Bool} (present : j.field? "authenticated" = some v)
      (counts : CountsAs v b) : SaysAuthenticated j b

/-- The data of a client, and of a user who acts through a client. -/
inductive Describes (j : Json) : Principal → Prop
  | client {name : String} {authenticated : Bool}
      (kind : j.field? "kind" = some (.text "client"))
      (named : j.field? "name" = some (.text name))
      (marked : SaysAuthenticated j authenticated) :
    Describes j (.client name authenticated)
  | clientUser {name clientId : String} {authenticated : Bool}
      (kind : j.field? "kind" = some (.text "client_user"))
      (named : j.field? "name" = some (.text name))
      (through : j.field? "client_id" = some (.text clientId))
      (marked : SaysAuthenticated j authenticated) :
    Describes j (.clientUser name clientId authenticated)

variable {es : List (String × Json)} {p : Principal}

theorem requiredText_eq_ok_iff {field s : String} :
    Check.required field Check.text (Value.ofJsonEntries [] es) = .ok s ↔
      (Json.object es).field? field = some (.text s) := by
  rw [Check.required_eq_ok, Value.field?_ofJson_object]
  simp [Check.text_ofJson_eq_ok_iff]

theorem authenticated_eq_ok_iff {b : Bool} :
    Check.optional "authenticated" true Check.bool (Value.ofJsonEntries [] es) = .ok b ↔
      SaysAuthenticated (.object es) b := by
  rw [Check.optional_eq_ok, Value.field?_ofJson_object]
  constructor
  · rintro (⟨hnone, rfl⟩ | ⟨v, hv, hb⟩)
    · exact .byDefault (by simpa using hnone)
    · obtain ⟨j, hj, rfl⟩ := Option.map_eq_some_iff.1 hv
      exact .given hj (Check.bool_ofJson_eq_ok_iff.1 hb)
  · rintro (hnone | ⟨hj, hb⟩)
    · exact .inl ⟨by simp [hnone], rfl⟩
    · exact .inr ⟨_, by rw [hj]; rfl, Check.bool_ofJson_eq_ok_iff.2 hb⟩

/-- The tag that led to a check passes it, so only the name is left to be a text. -/
theorem taggedName_eq_ok_iff {word name : String}
    (hkind : (Json.object es).field? "kind" = some (.text word)) :
    Checked.combine (fun _ n => n) (checkTag word (Value.ofJsonEntries [] es))
        (Check.required "name" Check.text (Value.ofJsonEntries [] es)) = .ok name ↔
      (Json.object es).field? "name" = some (.text name) := by
  have htag : checkTag word (Value.ofJsonEntries [] es) = .ok () := by
    refine Check.optional_eq_ok.2 (.inr ⟨.text word, ?_, if_pos rfl⟩)
    rw [Value.field?_ofJson_object, hkind]
    rfl
  rw [htag, Checked.combine_eq_ok]
  simp [requiredText_eq_ok_iff]

theorem checkClient_eq_ok_iff (hkind : (Json.object es).field? "kind" = some (.text "client")) :
    checkClient (.map (Value.ofJsonEntries [] es)) = .ok p ↔
      ∃ name authenticated, (Json.object es).field? "name" = some (.text name) ∧
        SaysAuthenticated (.object es) authenticated ∧ client name authenticated = p := by
  change Checked.combine _ (Checked.combine _ (checkTag "client" _) _) _ = _ ↔ _
  rw [Checked.combine_eq_ok]
  simp only [taggedName_eq_ok_iff hkind, authenticated_eq_ok_iff]

theorem checkClientUser_eq_ok_iff
    (hkind : (Json.object es).field? "kind" = some (.text "client_user")) :
    checkClientUser (.map (Value.ofJsonEntries [] es)) = .ok p ↔
      ∃ name clientId authenticated, (Json.object es).field? "name" = some (.text name) ∧
        (Json.object es).field? "client_id" = some (.text clientId) ∧
        SaysAuthenticated (.object es) authenticated ∧
        clientUser name clientId authenticated = p := by
  change Checked.combine _
    (Checked.combine _ (Checked.combine _ (checkTag "client_user" _) _) _) _ = _ ↔ _
  rw [Checked.combine_eq_ok]
  simp only [Checked.combine_eq_ok, taggedName_eq_ok_iff hkind, requiredText_eq_ok_iff,
    authenticated_eq_ok_iff]
  constructor
  · rintro ⟨_, authenticated, ⟨name, clientId, hname, hclientId, rfl⟩, hsays, rfl⟩
    exact ⟨name, clientId, authenticated, hname, hclientId, hsays, rfl⟩
  · rintro ⟨name, clientId, authenticated, hname, hclientId, hsays, rfl⟩
    exact ⟨(name, clientId), authenticated, ⟨name, clientId, hname, hclientId, rfl⟩, hsays, rfl⟩

theorem check_of_client (hkind : (Json.object es).field? "kind" = some (.text "client")) :
    check (.ofJson (.object es)) = .ok p ↔ Describes (.object es) p := by
  rw [Value.ofJson, check, Value.field?_ofJson_object, hkind]
  change Checked.under _ (checkClient _) = _ ↔ _
  rw [Checked.under_eq_ok, checkClient_eq_ok_iff hkind]
  constructor
  · rintro ⟨name, authenticated, hname, hsays, rfl⟩
    exact .client hkind hname hsays
  · rintro (⟨_, hname, hsays⟩ | ⟨hother, _⟩)
    · exact ⟨_, _, hname, hsays, rfl⟩
    · simp [hkind] at hother

theorem check_of_clientUser (hkind : (Json.object es).field? "kind" = some (.text "client_user")) :
    check (.ofJson (.object es)) = .ok p ↔ Describes (.object es) p := by
  rw [Value.ofJson, check, Value.field?_ofJson_object, hkind]
  change Checked.under _ (checkClientUser _) = _ ↔ _
  rw [Checked.under_eq_ok, checkClientUser_eq_ok_iff hkind]
  constructor
  · rintro ⟨name, clientId, authenticated, hname, hclientId, hsays, rfl⟩
    exact .clientUser hkind hname hclientId hsays
  · rintro (⟨hother, _⟩ | ⟨_, hname, hclientId, hsays⟩)
    · simp [hkind] at hother
    · exact ⟨_, _, _, hname, hclientId, hsays, rfl⟩

theorem check_of_other_kind (hclient : (Json.object es).field? "kind" ≠ some (.text "client"))
    (huser : (Json.object es).field? "kind" ≠ some (.text "client_user")) :
    check (.ofJson (.object es)) ≠ .ok p := by
  rw [Value.ofJson, check, Value.field?_ofJson_object]
  cases hkind : (Json.object es).field? "kind" with
  | none => rintro ⟨⟩
  | some kind =>
    cases kind with
    | text word =>
      have hnoClient : word ≠ clientTag := fun h => hclient (by rw [hkind, h]; rfl)
      have hnoUser : word ≠ clientUserTag := fun h => huser (by rw [hkind, h]; rfl)
      simp [Value.ofJson, hnoClient, hnoUser, Checked.issue]
    | _ => rintro ⟨⟩

/-- The check of a caller accepts the data that describe one, and gives what they describe. -/
theorem check_ofJson_eq_ok_iff {j : Json} : check (.ofJson j) = .ok p ↔ Describes j p := by
  cases j with
  | object es =>
    by_cases hclient : (Json.object es).field? "kind" = some (.text "client")
    · exact check_of_client hclient
    · by_cases huser : (Json.object es).field? "kind" = some (.text "client_user")
      · exact check_of_clientUser huser
      · refine iff_of_false (check_of_other_kind hclient huser) ?_
        rintro (⟨hkind, _⟩ | ⟨hkind, _⟩)
        · exact hclient hkind
        · exact huser hkind
  | _ =>
    constructor
    · rintro ⟨⟩
    · rintro (⟨⟨⟩⟩ | ⟨⟨⟩⟩)

theorem resolve_some_eq_some_iff {v : Value} :
    (resolve (some v)).value = some p ↔ check v = .ok p := by
  cases v with
  | null => constructor <;> rintro ⟨⟩
  | _ =>
    simp only [resolve]
    split
    · next hcheck => simp [hcheck, Logged.silent]
    · next hcheck => simp [hcheck]

theorem resolve_eq_some_iff {data : Option Json} :
    (resolve (data.map Value.ofJson)).value = some p ↔ ∃ j, data = some j ∧ Describes j p := by
  cases data with
  | none => simp [resolve, Logged.silent]
  | some j =>
    rw [Option.map_some, resolve_some_eq_some_iff, check_ofJson_eq_ok_iff]
    simp

end Principal

/-! ## What an authorization is refused for -/

/-- Data that describe a caller, and say that it is authenticated. -/
def DescribesAuthenticated (data : Option Json) : Prop :=
  ∃ j p, data = some j ∧ Principal.Describes j p ∧ p.isAuthenticated = true

theorem describesAuthenticated_iff {data : Option Json} :
    DescribesAuthenticated data ↔
      ∃ p, Identified (Principal.resolve (data.map Value.ofJson)).value p := by
  constructor
  · rintro ⟨j, p, hdata, hdescribes, hauthenticated⟩
    exact ⟨p, Principal.resolve_eq_some_iff.2 ⟨j, hdata, hdescribes⟩, hauthenticated⟩
  · rintro ⟨p, hcaller, hauthenticated⟩
    obtain ⟨j, hdata, hdescribes⟩ := Principal.resolve_eq_some_iff.1 hcaller
    exact ⟨j, p, hdata, hdescribes, hauthenticated⟩

theorem Instant.truncate_ne_refused (now : Instant) (refusal : Refusal) :
    now.truncate ≠ .error (.refused refusal) := by
  cases now with
  | whole s => rintro ⟨⟩
  | fractional x =>
    rw [truncate, wholePart]
    split <;> rintro ⟨⟩

/-- An issuer refuses for one reason only. -/
theorem Issuer.exhausted_of_attempt {i : Issuer} {codes : CodeSource} {now : Instant}
    {request : AuthorizationRequest} {refusal : Refusal} (left : Nat) (s : Issuance)
    (h : (i.attempt codes now request left s).1.value = .error (.refused refusal)) :
    refusal = .exhausted i.maxAttempts := by
  -- Only without an attempt left there is a refusal; a failure before that is of the clock or the
  -- store, and neither refuses.
  induction left generalizing s with
  | zero =>
    cases h
    rfl
  | succ left ih =>
    cases hrecord : i.newRecord codes now request s.drawn with
    | error f =>
      simp only [attempt, hrecord] at h
      cases h
      exact absurd (newRecord_eq_error_iff.1 hrecord) (now.truncate_ne_refused refusal)
    | ok r =>
      cases hinsert : (s.store.insertIfAbsent now r).1.value with
      | error f =>
        rw [attempt_of_failed left hrecord hinsert] at h
        cases h
        exact absurd hinsert (s.store.insertIfAbsent_ne_refused now r refusal)
      | ok stored =>
        cases stored with
        | true =>
          rw [attempt_of_stored left hrecord hinsert] at h
          cases h
        | false =>
          rw [attempt_of_refused left hrecord hinsert] at h
          exact ih _ h

namespace Override

theorem absoluteUrl_ne_refused (raw : Value) (refusal : Refusal) :
    absoluteUrl raw ≠ .error (.refused refusal) := by
  cases raw with
  | text s =>
    rw [absoluteUrl_text]
    split
    · rintro ⟨⟩
    · split <;> rintro ⟨⟩
  | _ => rintro ⟨⟩

theorem positiveInt_ne_refused (raw : Value) (refusal : Refusal) :
    positiveInt raw ≠ .error (.refused refusal) := by
  cases raw with
  | text s =>
    unfold positiveInt
    dsimp only
    split
    · split <;> rintro ⟨⟩
    · rintro ⟨⟩
  | _ => rintro ⟨⟩

theorem resolve_ne_refused {α : Type} {read : Value → Except Failure (Option α)} {refusal : Refusal}
    {raw : Value} (hread : read raw ≠ .error (.refused refusal)) (default : α) (name : String) :
    (resolve read raw default name).value ≠ .error (.refused refusal) := by
  unfold resolve
  split
  · rintro ⟨⟩
  · split
    · next hfails =>
      rintro ⟨⟩
      exact hread hfails
    · rintro ⟨⟩
    · split <;> rintro ⟨⟩

end Override

/-- The answer for issued codes may fail, but it is not refused. -/
theorem DeviceResponse.build_ne_refused (userCode deviceCode : String) (client : Client)
    (context : RequestContext) (path : String) (defaultInterval expiresIn : Int)
    (refusal : Refusal) :
    (build userCode deviceCode client context path defaultInterval expiresIn).value ≠
      .error (.refused refusal) := by
  intro h
  unfold build at h
  dsimp only at h
  split at h
  · next huri =>
    cases h
    exact Override.resolve_ne_refused (Override.absoluteUrl_ne_refused _ _) _ _ huri
  · split at h
    · next hinterval =>
      cases h
      exact Override.resolve_ne_refused (Override.positiveInt_ne_refused _ _) _ _ hinterval
    · cases h

namespace Service

variable {v : Service} {now : Instant} {parameters : Table String} {principal : Option Principal}
  {context : RequestContext} {s : ServiceState} {refusal : Refusal}

/-- What refuses an authorization is its validation, or else the issuer that is out of attempts. -/
theorem refused_cases
    (h : (v.authorize now parameters principal context s).1.value = .error (.refused refusal)) :
    (s.registry.validate parameters principal).1.value = .error (.refused refusal) ∨
      refusal = .exhausted v.issuer.maxAttempts := by
  cases hvalid : (s.registry.validate parameters principal).1.value with
  | error f =>
    rw [(authorize_of_refused v now context hvalid).1] at h
    cases h
    exact .inl rfl
  | ok accepted =>
    obtain ⟨request, client⟩ := accepted
    right
    cases hissue : (v.issuer.issue v.codes now request s.issuance).1.value with
    | error f =>
      rw [(authorize_of_issue_error v now context hvalid hissue).1] at h
      cases h
      exact Issuer.exhausted_of_attempt _ _ hissue
    | ok codes =>
      rw [(authorize_of_issued v now context hvalid hissue).1] at h
      exact absurd h (DeviceResponse.build_ne_refused _ _ _ _ _ _ _ _)

/-- Without an authenticated caller nothing happens. -/
theorem authorize_of_not_identified (h : ∀ p, ¬ Identified principal p) :
    v.authorize now parameters principal context s =
      (.silent (.error (.refused (.unauthenticated Refusal.unauthenticatedMessage))), s) := by
  have hnone : Principal.authenticated? principal = none := by
    cases hcaller : Principal.authenticated? principal with
    | none => rfl
    | some p => exact absurd (identified_iff.2 hcaller) (h p)
  simp only [authorize, Registry.validate, hnone, Logged.silent]

/-- A request is refused for its caller exactly if that is not authenticated. -/
theorem unauthenticated_iff :
    (∃ m, (v.authorize now parameters principal context s).1.value =
      .error (.refused (.unauthenticated m))) ↔ ∀ p, ¬ Identified principal p := by
  constructor
  · rintro ⟨m, h⟩
    rcases refused_cases h with hrefused | hexhausted
    · cases Registry.validate_eq_refused_iff.1 hrefused with
      | unauthenticated hnobody => exact hnobody
    · cases hexhausted
  · intro h
    rw [authorize_of_not_identified h]
    exact ⟨_, rfl⟩

end Service

/-- Only data that describe a caller name one, and then exactly the one that they describe; all
other data, and none, count as no caller. Whatever the data are, an authorization is refused for its
caller exactly if they do not describe an authenticated one, and then the registry, the store and
the source of codes are as they were and nothing is logged. -/
theorem resolution_fails_closed (data : Option Json) :
    let caller := (Principal.resolve (data.map Value.ofJson)).value
    (∀ p, caller = some p ↔ ∃ j, data = some j ∧ Principal.Describes j p) ∧
    ∀ (v : Service) (now : Instant) (parameters : Table String) (context : RequestContext)
      (s : ServiceState),
      let out := v.authorize now parameters caller context s
      ((∃ m, out.1.value = .error (.refused (.unauthenticated m))) ↔
        ¬ DescribesAuthenticated data) ∧
      (out = (.silent (.error (.refused (.unauthenticated Refusal.unauthenticatedMessage))), s) ↔
        ¬ DescribesAuthenticated data) := by
  intro caller
  refine ⟨fun p => Principal.resolve_eq_some_iff, ?_⟩
  intro v now parameters context s out
  have hnobody : ¬ DescribesAuthenticated data ↔ ∀ p, ¬ Identified caller p := by
    rw [describesAuthenticated_iff, not_exists]
  rw [hnobody]
  refine ⟨Service.unauthenticated_iff, ?_, Service.authorize_of_not_identified⟩
  intro hout
  exact Service.unauthenticated_iff.1 ⟨Refusal.unauthenticatedMessage, congrArg (·.1.value) hout⟩

end DeviceGrant
