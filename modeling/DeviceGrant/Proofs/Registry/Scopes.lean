import DeviceGrant.Proofs.Decision
import DeviceGrant.Proofs.Record
set_option autoImplicit false

/-! # Scopes of registrations and of requests

An entry of a configuration lists the scope of its client as a sequence of words or as one text, and
a request lists its scope as one text. All three are read as the same set of words: a configuration
does not tell a sequence from a text that joins its words (`ofConfig_congr`), the client that is
registered has just these words (`exists_get?_of_lists`), and a request is held against them word by
word (`scopes_read_alike`).

Between the words of an entry and the scope of its client stand the data of the client, in which the
scope is a set of values, and their checks. -/

namespace DeviceGrant

/-! ## Sets of texts -/

namespace Value

theorem any_sameKey_text (s : String) (texts : List String) :
    (texts.map text).any (sameKey (.text s)) = decide (s ∈ texts) := by
  induction texts with
  | nil => rfl
  | cons t texts ih => simp [sameKey_text, ih]

/-- What a set keeps of texts are texts, and none of them gets lost. -/
theorem exists_distinct_text (texts : List String) :
    ∃ kept : List String, distinct (texts.map text) = kept.map text ∧
      ∀ s, s ∈ kept ↔ s ∈ texts := by
  have hfold : ∀ texts before : List String, ∃ kept : List String,
      (texts.map text).foldl (fun kept v => if kept.any (sameKey v) then kept else kept ++ [v])
        (before.map text) = kept.map text ∧ ∀ s, s ∈ kept ↔ s ∈ before ∨ s ∈ texts := by
    intro texts
    induction texts with
    | nil => exact fun before => ⟨before, rfl, by simp⟩
    | cons t texts ih =>
      intro before
      rw [List.map_cons, List.foldl_cons, any_sameKey_text]
      by_cases ht : t ∈ before
      · obtain ⟨kept, hkept, hmem⟩ := ih before
        refine ⟨kept, by simpa [ht] using hkept, fun s => ?_⟩
        rw [hmem, List.mem_cons]
        grind
      · obtain ⟨kept, hkept, hmem⟩ := ih (before ++ [t])
        refine ⟨kept, by simpa [ht] using hkept, fun s => ?_⟩
        rw [hmem, List.mem_append, List.mem_singleton, List.mem_cons, or_assoc]
  obtain ⟨kept, hkept, hmem⟩ := hfold texts []
  exact ⟨kept, hkept, by simpa using hmem⟩

end Value

namespace Client

variable {tokens tokens' : List String} {scope : Value} {fields fields' : List (Value × Value)}

/-- Words as an entry lists its scope: one by one, or joined in a text. -/
inductive ListsScope (tokens : List String) : Value → Prop
  | sequence : ListsScope tokens (.list (tokens.map .text))
  | joined {s : String} : Text.Joins tokens s → ListsScope tokens (.text s)

theorem ListsScope.scopeMembers?_eq (h : ListsScope tokens scope) :
    scopeMembers? (Value.orDefault (some scope) (.list [])) = some (tokens.map .text) := by
  cases h with
  | sequence => cases tokens <;> rfl
  | @joined s hjoins =>
    rw [← Text.joins_iff.1 hjoins]
    by_cases hempty : s = ""
    · subst hempty
      rfl
    · have htruthy : (Value.text s).isTruthy = true := by simpa [Value.isTruthy] using hempty
      rw [Value.orDefault, if_pos htruthy, scopeMembers?]

/-! ## The data of a client -/

/-- The checks of a client take its scope as it is, so only its information can fail them. -/
theorem ofValue_entryData (id : String) (tokens : List String) (information : Value) :
    ofValue (entryData id (tokens.map .text) information) =
      Checked.refuseAs subject
        ((Checked.under (.field "additional_information") (Check.table .ok information)).map
          fun info => Client.mk id (Scope.ofList tokens) info) := by
  obtain ⟨kept, hkept, hmem⟩ := Value.exists_distinct_text tokens
  let es : List (String × Value) := [("client_id", .text id), ("scope", .set (kept.map .text)),
    ("additional_information", information)]
  have hdata : entryData id (tokens.map .text) information = .map (Value.textEntries es) := by
    rw [entryData, hkept]
    rfl
  have hid : Check.required "client_id" Check.text (Value.textEntries es) = .ok id :=
    Check.required_textEntries rfl rfl
  have hscope : Check.optional "scope" Scope.empty Check.scope (Value.textEntries es) =
      .ok (Scope.ofList tokens) := by
    refine Check.optional_textEntries rfl ?_
    rw [Check.scope, Check.texts_map_text]
    exact congrArg _ (Scope.ext_mem fun word => by rw [Scope.mem_ofList, Scope.mem_ofList, hmem])
  have hinformation : Check.optional "additional_information" Table.empty (Check.table .ok)
      (Value.textEntries es) =
        .under (.field "additional_information") (Check.table .ok information) := by
    rw [Check.optional, Value.field?_textEntries]
    rfl
  rw [ofValue, hdata]
  change Checked.refuseAs _ (Checked.combine _ (Checked.combine _ _ _) _) = _
  rw [hid, hscope, hinformation]
  cases Checked.under (.field "additional_information") (Check.table .ok information) <;> rfl

/-! ## Entries -/

theorem orDefault_map (fields : List (Value × Value)) :
    Value.orDefault (some (.map fields)) (.map []) = .map fields := by
  cases fields <;> rfl

/-- A set can hold every text. -/
theorem nonMember?_texts (tokens : List String) : nonMember? (tokens.map .text) = none := by
  simp [nonMember?, Value.isKey]

theorem value_ofEntry_of_lists (id : String) (hscope : Value.field? "scope" fields = some scope)
    (h : ListsScope tokens scope) :
    (ofEntry id (.map fields)).value = .ok (ofValue (entryData id (tokens.map .text)
      (Value.orDefault (Value.field? "additional_information" fields) (.map [])))).toOption := by
  simp only [ofEntry, orDefault_map, hscope, h.scopeMembers?_eq, nonMember?_texts]
  cases ofValue (entryData id (tokens.map .text)
    (Value.orDefault (Value.field? "additional_information" fields) (.map []))) <;> rfl

/-- How the words are listed, in which order and how often, does not matter. -/
theorem ofEntry_congr (id : String) {scope' : Value} (hmem : ∀ word, word ∈ tokens' ↔ word ∈ tokens)
    (hinformation : Value.field? "additional_information" fields' =
      Value.field? "additional_information" fields)
    (hscope : Value.field? "scope" fields = some scope) (h : ListsScope tokens scope)
    (hscope' : Value.field? "scope" fields' = some scope') (h' : ListsScope tokens' scope') :
    ofEntry id (.map fields') = ofEntry id (.map fields) := by
  have hsame : Scope.ofList tokens' = Scope.ofList tokens :=
    Scope.ext_mem fun word => by rw [Scope.mem_ofList, Scope.mem_ofList, hmem]
  simp only [ofEntry, orDefault_map, hscope, hscope', h.scopeMembers?_eq, h'.scopeMembers?_eq,
    nonMember?_texts, ofValue_entryData, hsame, hinformation]

theorem addEntries_congr {key entry entry' : Value} (known : Table Client)
    (before after : List (Value × Value))
    (h : ofEntry key.toText entry' = ofEntry key.toText entry) :
    addEntries known (before ++ (key, entry') :: after) =
      addEntries known (before ++ (key, entry) :: after) := by
  induction before generalizing known with
  | nil => simp only [List.nil_append, addEntries, h]
  | cons e before ih =>
    obtain ⟨k, v⟩ := e
    simp only [List.cons_append, addEntries, ih]

/-! ## Places in a configuration -/

/-- All that a configuration says about its clients but the scope of one of them: the entries around
that client's entry, its key, and the information that it adds. -/
structure Place where
  before : List (Value × Value)
  key : Value
  information : Option Value
  after : List (Value × Value)

namespace Place

/-- The configuration lists these words as the scope of the client. -/
def Lists (place : Place) (tokens : List String) (config : List (Value × Value)) : Prop :=
  ∃ fields scope, entriesOf config = place.before ++ (place.key, .map fields) :: place.after ∧
    Value.field? "additional_information" fields = place.information ∧
    Value.field? "scope" fields = some scope ∧ ListsScope tokens scope

/-- Nothing but its scope can keep the client from being registered: the key can be printed, its
information is in order, no entry behind it has the same id, and no other entry ends the reading. -/
structure Admits (place : Place) (info : Table Value) : Prop where
  printable : place.key.isPrintable = true
  information : Check.table .ok (Value.orDefault place.information (.map [])) = .ok info
  last : ∀ e ∈ place.after, e.1.toText ≠ place.key.toText
  readable : ∀ e ∈ place.before ++ place.after, ¬ EndsReading e

end Place

variable {place : Place} {config config' : List (Value × Value)} {info : Table Value}

theorem ofConfig_congr (hmem : ∀ word, word ∈ tokens' ↔ word ∈ tokens)
    (h : place.Lists tokens config) (h' : place.Lists tokens' config') :
    (ofConfig config').value = (ofConfig config).value := by
  obtain ⟨fields, scope, hentries, hinformation, hscope, hlists⟩ := h
  obtain ⟨fields', scope', hentries', hinformation', hscope', hlists'⟩ := h'
  have hentry : ofEntry place.key.toText (.map fields') = ofEntry place.key.toText (.map fields) :=
    ofEntry_congr _ hmem (hinformation'.trans hinformation.symm) hscope hlists hscope' hlists'
  rw [value_ofConfig, value_ofConfig, hentries, hentries', addEntries_congr _ _ _ hentry]

/-- The client that is registered has the words that are listed. -/
theorem exists_get?_of_lists (hadmits : place.Admits info) (h : place.Lists tokens config) :
    ∃ t, (ofConfig config).value = .ok t ∧ t.get? place.key.toText =
      some ⟨place.key.toText, Scope.ofList tokens, info⟩ := by
  obtain ⟨fields, scope, hentries, hinformation, hscope, hlists⟩ := h
  have hentry : (ofEntry place.key.toText (.map fields)).value =
      .ok (some ⟨place.key.toText, Scope.ofList tokens, info⟩) := by
    rw [value_ofEntry_of_lists _ hscope hlists, ofValue_entryData, hinformation,
      hadmits.information]
    rfl
  have hreads : ¬ ∃ f, (ofConfig config).value = .error f := by
    rw [value_ofConfig, addEntries_eq_error_iff, hentries]
    rintro ⟨e, he, hends⟩
    rw [List.mem_append, List.mem_cons] at he
    rcases he with he | rfl | he
    · exact hadmits.readable e (List.mem_append_left _ he) hends
    · rcases hends with hkey | hnonMember
      · simp [hadmits.printable] at hkey
      · obtain ⟨f, hf⟩ := (ofEntry_eq_error_iff place.key.toText).2 hnonMember
        rw [hentry] at hf
        cases hf
    · exact hadmits.readable e (List.mem_append_right _ he) hends
  cases hvalue : (ofConfig config).value with
  | error f => exact absurd ⟨f, hvalue⟩ hreads
  | ok t =>
    refine ⟨t, rfl, ?_⟩
    rw [value_ofConfig, hentries] at hvalue
    -- The entry is the last one with its id, so it is the one that counts.
    have hlast : entriesFor place.key.toText
        (place.before ++ (place.key, .map fields) :: place.after) =
          entriesFor place.key.toText place.before ++ [(place.key, .map fields)] := by
      have hafter : place.after.filter (fun e => e.1.toText = place.key.toText) = [] := by
        simpa using hadmits.last
      simp [entriesFor, hafter]
    rw [get?_of_addEntries hvalue, hlast, lastDescribed?, List.reverse_append]
    simp [described?_of_ok hentry]

end Client

/-! ## Requests -/

theorem asksFor_iff_mem {parameters : Table String} {asked : List String} {text : String}
    (hsent : parameters.get? scopeParameter = some text) (h : Text.Joins asked text)
    (word : String) : AsksFor parameters word ↔ word ∈ asked := by
  simp [AsksFor, hsent, ← Text.mem_words_iff, Text.joins_iff.1 h]

namespace Registry

variable {r : Registry} {parameters : Table String} {principal : Option Principal} {p : Principal}
  {client : Client} {asked : List String} {text : String}

theorem validate_of_joined_within (h : r.Resolves parameters principal p client)
    (hsent : parameters.get? scopeParameter = some text) (hjoins : Text.Joins asked text)
    (hne : asked ≠ []) (hwithin : ∀ word ∈ asked, word ∈ client.scope) :
    ∃ request, (r.validate parameters principal).1.value = .ok (request, client) ∧
      ∀ word, word ∈ request.scope ↔ word ∈ asked := by
  have hasks := asksFor_iff_mem hsent hjoins
  have hgrants := grants_acceptedRequest h fun word hword => hwithin word ((hasks word).1 hword)
  obtain ⟨word, hword⟩ := List.exists_mem_of_ne_nil asked hne
  refine ⟨_, validate_of_grants hgrants, fun other => ?_⟩
  exact (hgrants.asked ⟨word, (hasks word).2 hword⟩ other).trans (hasks other)

theorem validate_of_joined_excess (h : r.Resolves parameters principal p client)
    (hsent : parameters.get? scopeParameter = some text) (hjoins : Text.Joins asked text)
    (hexcess : ∃ word ∈ asked, word ∉ client.scope) :
    ∃ excess, (r.validate parameters principal).1.value =
        .error (.refused (.scopeNotAllowed excess client.scope)) ∧
      ∀ word, word ∈ excess ↔ word ∈ asked ∧ word ∉ client.scope := by
  have hasks := asksFor_iff_mem hsent hjoins
  have hmem : ∀ word, word ∈ (requestedScope parameters).diff client.scope ↔
      AsksFor parameters word ∧ word ∉ client.scope := by
    intro word
    rw [Scope.mem_diff, mem_requestedScope_iff]
  obtain ⟨word, hword, hout⟩ := hexcess
  refine ⟨_, validate_of_refuses (.scopeNotAllowed h hmem
    ⟨word, (hmem word).2 ⟨(hasks word).2 hword, hout⟩⟩), fun other => ?_⟩
  rw [hmem, hasks]

/-- Scopes are read the same way wherever they are listed. A configuration that lists words for a
client one by one and one that joins the same words in a text, in any order and with repetitions,
are read as the same clients. Where nothing else keeps the client from being registered, its scope
has exactly these words. A request for that client whose scope joins further words, at least one, is
granted exactly those if all of them are in the client's scope, and else refused with exactly those
that are not. -/
theorem scopes_read_alike (place : Client.Place) (tokens : List String) :
    (∀ tokens' config config', (∀ word, word ∈ tokens' ↔ word ∈ tokens) →
      place.Lists tokens config → place.Lists tokens' config' →
        (Client.ofConfig config').value = (Client.ofConfig config).value) ∧
    ∀ info config, place.Admits info → place.Lists tokens config →
      ∃ t client, (Client.ofConfig config).value = .ok t ∧
        t.get? place.key.toText = some client ∧ (∀ word, word ∈ client.scope ↔ word ∈ tokens) ∧
        ∀ (r : Registry) (parameters : Table String) (principal : Option Principal) (p : Principal)
          (asked : List String) (text : String), r.Resolves parameters principal p client →
          parameters.get? scopeParameter = some text → Text.Joins asked text → asked ≠ [] →
          let out := (r.validate parameters principal).1.value
          ((∀ word ∈ asked, word ∈ tokens) → ∃ request, out = .ok (request, client) ∧
            ∀ word, word ∈ request.scope ↔ word ∈ asked) ∧
          ((∃ word ∈ asked, word ∉ tokens) → ∃ excess,
            out = .error (.refused (.scopeNotAllowed excess client.scope)) ∧
              ∀ word, word ∈ excess ↔ word ∈ asked ∧ word ∉ tokens) := by
  refine ⟨fun tokens' config config' hmem h h' => Client.ofConfig_congr hmem h h', ?_⟩
  intro info config hadmits h
  obtain ⟨t, ht, hget⟩ := Client.exists_get?_of_lists hadmits h
  have hscope : ∀ word, word ∈ Scope.ofList tokens ↔ word ∈ tokens := fun _ => Scope.mem_ofList
  refine ⟨t, _, ht, hget, hscope, ?_⟩
  intro r parameters principal p asked text hresolves hsent hjoins hne
  refine ⟨fun hwithin => ?_, fun hexcess => ?_⟩
  · exact validate_of_joined_within hresolves hsent hjoins hne fun word hword =>
      (hscope word).2 (hwithin word hword)
  · simp only [← hscope] at hexcess ⊢
    exact validate_of_joined_excess hresolves hsent hjoins hexcess

/-- The place of an app that is the only client and adds no information. -/
def appPlace : Client.Place := ⟨[], .text "app", none, []⟩

/-- The app's entry with a scope in one text: twice the same word, and three kinds of blanks. -/
def joinedEntry : Value × Value :=
  (.text "app", .map [(.text "scope", .text " write\u3000read\twrite")])

/-- The parameters of a request by the app. -/
def appAsks (text : String) : Table String :=
  .ofList [(clientIdParameter, "app"), (scopeParameter, text)]

theorem resolves_appAsks {t : Table Client} (h : t.get? "app" = some client) (text : String) :
    (fixed t).Resolves (appAsks text) (some (.client "app" true)) (.client "app" true) client := by
  have hsent : (appAsks text).get? clientIdParameter = some "app" := rfl
  have hid : (Principal.client "app" true).resolvedId (appAsks text) = "app" := by
    simp [Principal.resolvedId, hsent]
  refine ⟨⟨⟨⟨rfl, rfl⟩, ?_⟩, by simp [hid]⟩, ?_⟩
  · rintro id ⟨⟩
    exact .inr rfl
  · rw [hid]
    exact congrArg Except.ok h

/-- The app is the same client in either configuration, may ask for one of its words twice and gets
it once, and may not ask for a word that is not its own. -/
theorem scopes_read_alike_app :
    ∃ t client, (Client.ofConfig (Client.sampleConfig [joinedEntry])).value = .ok t ∧
      (Client.ofConfig (Client.sampleConfig
        [Client.sampleEntry "app" [.text "read", .text "write"]])).value = .ok t ∧
      (∃ request, ((fixed t).validate (appAsks "read\u2028read")
        (some (.client "app" true))).1.value = .ok (request, client) ∧
          ∀ word, word ∈ request.scope ↔ word = "read") ∧
      ∃ excess, ((fixed t).validate (appAsks "admin read ")
        (some (.client "app" true))).1.value =
          .error (.refused (.scopeNotAllowed excess client.scope)) ∧
            ∀ word, word ∈ excess ↔ word = "admin" := by
  obtain ⟨hsame, hregistered⟩ := scopes_read_alike appPlace ["write", "read", "write"]
  have hjoined : appPlace.Lists ["write", "read", "write"] (Client.sampleConfig [joinedEntry]) :=
    ⟨_, _, rfl, rfl, rfl, .joined (Text.joins_iff.2 (by decide +kernel))⟩
  have hsequence : appPlace.Lists ["read", "write"]
      (Client.sampleConfig [Client.sampleEntry "app" [.text "read", .text "write"]]) :=
    ⟨_, _, rfl, rfl, rfl, .sequence⟩
  have hadmits : appPlace.Admits .empty := ⟨rfl, rfl, by simp [appPlace], by simp [appPlace]⟩
  obtain ⟨t, client, ht, hget, -, hrequests⟩ := hregistered _ _ hadmits hjoined
  have hsent : ∀ text, (appAsks text).get? scopeParameter = some text := fun _ => rfl
  refine ⟨t, client, ht, ?_, ?_, ?_⟩
  · rw [hsame _ _ _ (by simp only [List.mem_cons]; grind) hjoined hsequence, ht]
  · have hjoins : Text.Joins ["read", "read"] "read\u2028read" :=
      Text.joins_iff.2 (by decide +kernel)
    obtain ⟨request, hout, hscope⟩ :=
      (hrequests _ _ _ _ _ _ (resolves_appAsks hget _) (hsent _) hjoins (by simp)).1 (by simp)
    exact ⟨request, hout, by simpa using hscope⟩
  · have hjoins : Text.Joins ["admin", "read"] "admin read " :=
      Text.joins_iff.2 (by decide +kernel)
    obtain ⟨excess, hout, hexcess⟩ :=
      (hrequests _ _ _ _ _ _ (resolves_appAsks hget _) (hsent _) hjoins (by simp)).2 (by simp)
    refine ⟨excess, hout, fun word => ?_⟩
    rw [hexcess]
    simp only [List.mem_cons, List.not_mem_nil]
    grind

end Registry

end DeviceGrant
