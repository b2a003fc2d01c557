import DeviceGrant.Proofs.Json.RoundTrip
import DeviceGrant.Proofs.Registry
import DeviceGrant.Record
set_option autoImplicit false

/-! # Records as texts

A record is read back from the text that a shared store holds for it, field by field
(`decode_encode`), as long as its two seconds are not too long to be read. A record whose seconds
are too long cannot be read at all; in no case is another record read (`eq_of_decode_encode`), and
two records never have one text (`encode_injective`). -/

namespace DeviceGrant

/-! ## Texts only -/

namespace Json

theorem areItemsPlain_map_text (depth : Nat) (ss : List String) :
    areItemsPlain depth (ss.map .text) = true := by
  induction ss with
  | nil => rfl
  | cons s ss ih => simpa [isPlain] using ih

theorem areEntriesPlain_map_text (depth : Nat) (es : List (String × String)) :
    areEntriesPlain depth (es.map fun e => (e.1, .text e.2)) = true := by
  induction es with
  | nil => rfl
  | cons e es ih => simpa [isPlain] using ih

theorem itemsFit_map_text (limit : Nat) (ss : List String) :
    itemsFit limit (ss.map .text) = true := by
  induction ss with
  | nil => rfl
  | cons s ss ih => simpa [itemsFit, fits] using ih

theorem entriesFit_map_text (limit : Nat) (es : List (String × String)) :
    entriesFit limit (es.map fun e => (e.1, .text e.2)) = true := by
  induction es with
  | nil => rfl
  | cons e es ih => simpa [entriesFit, fits] using ih

end Json

/-! ## Tables and scopes from their members -/

namespace Table

variable {α : Type}

theorem putIn_of_not_mem {name : String} {es : List (String × α)} (value : α)
    (h : name ∉ es.map (·.1)) : putIn name value es = es ++ [(name, value)] := by
  induction es with
  | nil => rfl
  | cons e es ih =>
    obtain ⟨n, v⟩ := e
    obtain ⟨hne, hes⟩ : name ≠ n ∧ name ∉ es.map (·.1) := by simpa using h
    rw [putIn, if_neg (Ne.symm hne), ih hes, List.cons_append]

theorem entries_foldl_put (t : Table α) (es : List (String × α))
    (h : ((t.entries ++ es).map (·.1)).Nodup) :
    (es.foldl (fun t e => t.put e.1 e.2) t).entries = t.entries ++ es := by
  induction es generalizing t with
  | nil => simp
  | cons e es ih =>
    have hput : (t.put e.1 e.2).entries = t.entries ++ [e] := by
      refine putIn_of_not_mem e.2 fun hmem => ?_
      rw [List.map_append, List.map_cons, List.nodup_append] at h
      exact h.2.2 e.1 hmem e.1 (by simp) rfl
    rw [List.foldl_cons, ih, hput, List.append_assoc, List.singleton_append]
    rw [hput, List.append_assoc, List.singleton_append]
    exact h

theorem ofList_entries (t : Table α) : ofList t.entries = t :=
  ext_entries (entries_foldl_put empty t.entries (by simpa using t.nodup))

end Table

namespace Scope

theorem insertName_of_lt {s : String} {ts : List String} (h : ∀ t ∈ ts, s < t) :
    insertName s ts = s :: ts := by
  cases ts with
  | nil => rfl
  | cons t ts => rw [insertName, if_pos (h t (by simp))]

theorem ofList_names (a : Scope) : ofList a.names = a := by
  have hnames : ∀ ts : List String, ts.Pairwise (· < ·) → (ofList ts).names = ts := by
    intro ts hts
    induction ts with
    | nil => rfl
    | cons t ts ih =>
      obtain ⟨ht, hts⟩ := List.pairwise_cons.1 hts
      change insertName t (ofList ts).names = t :: ts
      rw [ih hts, insertName_of_lt ht]
  have h := hnames a.names a.ascending
  cases hb : ofList a.names
  cases a
  simp_all

end Scope

/-! ## The values of written fields -/

namespace Value

/-- Entries whose keys are texts. -/
def textEntries (es : List (String × Value)) : List (Value × Value) :=
  es.map fun e => (.text e.1, e.2)

theorem sameKey_text (a b : String) : sameKey (.text a) (.text b) = decide (a = b) := by
  simp [sameKey, asNumber?]

theorem field?_textEntries (name : String) (es : List (String × Value)) :
    field? name (textEntries es) = Table.lookIn name es := by
  induction es with
  | nil => rfl
  | cons e es ih =>
    obtain ⟨n, v⟩ := e
    by_cases hn : n = name
    · simp [field?, find?, textEntries, Table.lookIn, sameKey_text, hn]
    · have hne : sameKey (.text n) (.text name) = false := by simp [sameKey_text, hn]
      rw [Table.lookIn, if_neg hn, ← ih]
      simp [field?, find?, textEntries, hne]

theorem putEntry_textEntries {k : String} {es : List (String × Value)} (v : Value)
    (h : k ∉ es.map (·.1)) :
    putEntry (.text k) v (textEntries es) = textEntries (es ++ [(k, v)]) := by
  induction es with
  | nil => rfl
  | cons e es ih =>
    obtain ⟨n, w⟩ := e
    obtain ⟨hne, hes⟩ : k ≠ n ∧ k ∉ es.map (·.1) := by simpa using h
    have hkey : ¬ sameKey (.text n) (.text k) = true := by simp [sameKey_text, Ne.symm hne]
    change putEntry (.text k) v ((.text n, w) :: textEntries es) = _
    rw [putEntry, if_neg hkey, ih hes]
    rfl

theorem ofJsonEntries_textEntries (before : List (String × Value)) (es : List (String × Json))
    (h : (before.map (·.1) ++ es.map (·.1)).Nodup) :
    ofJsonEntries (textEntries before) es =
      textEntries (before ++ es.map fun e => (e.1, ofJson e.2)) := by
  induction es generalizing before with
  | nil => simp [ofJsonEntries]
  | cons e es ih =>
    obtain ⟨k, j⟩ := e
    have hk : k ∉ before.map (·.1) := by
      intro hmem
      rw [List.map_cons, List.nodup_append] at h
      exact h.2.2 k hmem k (by simp) rfl
    rw [ofJsonEntries, putEntry_textEntries _ hk, ih]
    · simp
    · simpa using h

/-- An object whose names differ keeps all of its entries. -/
theorem ofJson_object {es : List (String × Json)} (h : (es.map (·.1)).Nodup) :
    ofJson (.object es) = .map (textEntries (es.map fun e => (e.1, ofJson e.2))) := by
  rw [ofJson]
  exact congrArg _ (ofJsonEntries_textEntries [] es h)

theorem ofJsonItems_eq_map (vs : List Json) : ofJsonItems vs = vs.map ofJson := by
  induction vs with
  | nil => rfl
  | cons v vs ih => rw [ofJsonItems, ih, List.map_cons]

end Value

namespace Check

theorem required_textEntries {α : Type} {name : String} {check : Value → Checked α}
    {es : List (String × Value)} {v : Value} {a : α} (hv : Table.lookIn name es = some v)
    (ha : check v = .ok a) : required name check (Value.textEntries es) = .ok a :=
  required_eq_ok.2 ⟨v, by rw [Value.field?_textEntries, hv], ha⟩

theorem optional_textEntries {α : Type} {name : String} {default : α} {check : Value → Checked α}
    {es : List (String × Value)} {v : Value} {a : α} (hv : Table.lookIn name es = some v)
    (ha : check v = .ok a) : optional name default check (Value.textEntries es) = .ok a := by
  rw [optional, Value.field?_textEntries, hv]
  exact Checked.under_eq_ok.2 ha

theorem texts_map_text (start : Nat) (ss : List String) :
    texts start (ss.map .text) = .ok ss := by
  induction ss generalizing start with
  | nil => rfl
  | cons s ss ih =>
    rw [List.map_cons, texts, ih]
    rfl

theorem entries_textEntries (es : List (String × String)) :
    entries text (Value.textEntries (es.map fun e => (e.1, .text e.2))) = .ok es := by
  induction es with
  | nil => rfl
  | cons e es ih =>
    change Checked.combine _ _ (entries text (Value.textEntries _)) = _
    rw [ih]
    rfl

end Check

/-! ## Requests -/

namespace AuthorizationRequest

/-- The entries of a written request as values. -/
def valueFields (q : AuthorizationRequest) : List (String × Value) :=
  [("client_id", .text q.clientId), ("scope", .list (q.scope.names.map .text)),
    ("request_parameters",
      .map (Value.textEntries (q.parameters.entries.map fun e => (e.1, .text e.2))))]

theorem ofJson_toJson (q : AuthorizationRequest) :
    Value.ofJson q.toJson = .map (Value.textEntries q.valueFields) := by
  have hscope : Value.ofJson (.list (q.scope.names.map .text)) =
      .list (q.scope.names.map .text) := by
    rw [Value.ofJson, Value.ofJsonItems_eq_map, List.map_map]
    rfl
  have hparameters : Value.ofJson (.object (q.parameters.entries.map fun e => (e.1, .text e.2))) =
      .map (Value.textEntries (q.parameters.entries.map fun e => (e.1, .text e.2))) := by
    rw [Value.ofJson_object (by simpa [Function.comp_def] using q.parameters.nodup), List.map_map]
    rfl
  rw [toJson, Value.ofJson_object (by simp)]
  simp only [List.map_cons, List.map_nil, hscope, hparameters]
  rfl

theorem check_ofJson (q : AuthorizationRequest) : check (Value.ofJson q.toJson) = .ok q := by
  have hclientId : Check.required "client_id" Check.text (Value.textEntries q.valueFields) =
      .ok q.clientId := Check.required_textEntries rfl rfl
  have hscope : Check.optional "scope" Scope.empty Check.scope
      (Value.textEntries q.valueFields) = .ok q.scope := by
    refine Check.optional_textEntries rfl ?_
    rw [Check.scope, Check.texts_map_text]
    exact congrArg _ q.scope.ofList_names
  have hparameters : Check.optional "request_parameters" Table.empty (Check.table Check.text)
      (Value.textEntries q.valueFields) = .ok q.parameters := by
    refine Check.optional_textEntries rfl ?_
    rw [Check.table, Check.entries_textEntries]
    exact congrArg _ q.parameters.ofList_entries
  rw [ofJson_toJson]
  change Checked.combine _ (Checked.combine _ _ _) _ = _
  rw [hclientId, hscope, hparameters]
  rfl

/-- A written request is two levels deep and holds texts only. -/
theorem isPlain_toJson (q : AuthorizationRequest) (depth : Nat) :
    q.toJson.isPlain (depth + 2) = true := by
  simp [toJson, Json.isPlain, Json.areEntriesPlain, Json.areItemsPlain_map_text,
    Json.areEntriesPlain_map_text]

theorem fits_toJson (q : AuthorizationRequest) (limit : Nat) : q.toJson.fits limit = true := by
  simp [toJson, Json.fits, Json.entriesFit, Json.itemsFit_map_text, Json.entriesFit_map_text]

end AuthorizationRequest

/-! ## Records -/

namespace DeviceRecord

variable {r q : DeviceRecord}

/-- The entries of a written record as values. -/
def valueFields (r : DeviceRecord) : List (String × Value) :=
  [("device_code", .text r.deviceCode), ("user_code", .text r.userCode),
    ("request", Value.ofJson r.request.toJson), ("issued_at", .int r.issuedAt),
    ("expires_at", .int r.expiresAt), ("status", .text r.status.word)]

theorem ofJson_toJson (r : DeviceRecord) :
    Value.ofJson r.toJson = .map (Value.textEntries r.valueFields) := by
  rw [toJson, Value.ofJson_object (by simp)]
  rfl

theorem check_ofJson (r : DeviceRecord) : check (Value.ofJson r.toJson) = .ok r := by
  have hdevice : Check.required "device_code" Check.text (Value.textEntries r.valueFields) =
      .ok r.deviceCode := Check.required_textEntries rfl rfl
  have huser : Check.required "user_code" Check.text (Value.textEntries r.valueFields) =
      .ok r.userCode := Check.required_textEntries rfl rfl
  have hrequest : Check.required "request" AuthorizationRequest.check
      (Value.textEntries r.valueFields) = .ok r.request :=
    Check.required_textEntries rfl r.request.check_ofJson
  have hissued : Check.required "issued_at" Check.int (Value.textEntries r.valueFields) =
      .ok r.issuedAt := Check.required_textEntries rfl rfl
  have hexpires : Check.required "expires_at" Check.int (Value.textEntries r.valueFields) =
      .ok r.expiresAt := Check.required_textEntries rfl rfl
  have hstatus : Check.optional "status" .pending ApprovalStatus.check
      (Value.textEntries r.valueFields) = .ok r.status := by
    refine Check.optional_textEntries rfl ?_
    rw [ApprovalStatus.check, ApprovalStatus.ofWord?_word]
  rw [ofJson_toJson]
  change Checked.combine _ (Checked.combine _ (Checked.combine _ _ _) _)
    (Checked.combine _ (Checked.combine _ _ _) _) = _
  rw [hdevice, huser, hrequest, hissued, hexpires, hstatus]
  rfl

/-- Whether the seconds of a record have at most `limit` digits, their signs not counted. -/
def SecondsFit (limit : Nat) (r : DeviceRecord) : Prop :=
  Json.digitCount r.issuedAt ≤ limit ∧ Json.digitCount r.expiresAt ≤ limit

instance {limit : Nat} : Decidable (r.SecondsFit limit) :=
  inferInstanceAs (Decidable (_ ∧ _))

theorem isPlain_toJson (r : DeviceRecord) (depth : Nat) :
    r.toJson.isPlain (depth + 3) = true := by
  simp [toJson, Json.isPlain, Json.areEntriesPlain, r.request.isPlain_toJson]

theorem fits_toJson {limit : Nat} : r.toJson.fits limit = true ↔ r.SecondsFit limit := by
  simp [toJson, Json.fits, Json.entriesFit, r.request.fits_toJson, SecondsFit]

theorem read?_encode (r : DeviceRecord) (numeral : Nat) :
    Json.read? ⟨200, numeral⟩ r.encode =
      if r.toJson.fits numeral then some r.toJson else none :=
  Json.read?_toText (r.isPlain_toJson 197)

/-- A record is read back from its text. -/
theorem decode_encode (h : r.SecondsFit Json.Limits.data.numeral) :
    decode r.encode = .ok r := by
  have hread : Json.read? Json.Limits.data r.encode = some r.toJson := by
    rw [← if_pos (t := some r.toJson) (e := none) (fits_toJson.2 h)]
    exact r.read?_encode Json.Limits.data.numeral
  rw [decode, Check.json, hread]
  exact congrArg _ r.check_ofJson

/-- A record with a second that is too long is not read at all. -/
theorem decode_encode_of_not_fit (h : ¬ r.SecondsFit Json.Limits.data.numeral) :
    decode r.encode = .error ⟨subject, [⟨[], .jsonMalformed⟩]⟩ := by
  have hread : Json.read? Json.Limits.data r.encode = none := by
    rw [← if_neg (t := some r.toJson) (e := none) (mt fits_toJson.1 h)]
    exact r.read?_encode Json.Limits.data.numeral
  rw [decode, Check.json, hread]
  rfl

/-- No other record is read from the text of a record. -/
theorem eq_of_decode_encode (h : decode r.encode = .ok q) : q = r := by
  by_cases hfit : r.SecondsFit Json.Limits.data.numeral
  · rw [decode_encode hfit] at h
    exact (Except.ok.inj h).symm
  · rw [decode_encode_of_not_fit hfit] at h
    cases h

/-- Two records never have one text: with a limit that is large enough both are read from it. -/
theorem encode_injective (h : r.encode = q.encode) : r = q := by
  let numeral := max (max (Json.digitCount r.issuedAt) (Json.digitCount r.expiresAt))
    (max (Json.digitCount q.issuedAt) (Json.digitCount q.expiresAt))
  have hr : r.toJson.fits numeral = true := fits_toJson.2 (by simp [SecondsFit, numeral])
  have hq : q.toJson.fits numeral = true := fits_toJson.2 (by simp [SecondsFit, numeral])
  have hread := r.read?_encode numeral
  rw [h, q.read?_encode numeral, if_pos hr, if_pos hq, Option.some.injEq] at hread
  have hcheck := r.check_ofJson
  rw [← hread, q.check_ofJson] at hcheck
  exact (Except.ok.inj hcheck).symm

theorem encode_ne_empty (r : DeviceRecord) : r.encode.isEmpty = false := by
  have hlist : r.encode.toList ≠ [] := by
    rw [encode, Json.toText, String.toList_ofList]
    simp [toJson, Json.write]
  simpa using hlist

end DeviceRecord

end DeviceGrant
