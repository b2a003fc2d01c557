import DeviceGrant.Proofs.Registry
set_option autoImplicit false

/-! # The entries of a configuration are read one by one

A configuration lists clients by their ids. Reading puts the client of each entry into the table,
or passes the entry over, so what the table has under an id is the client of the last entry with
that id that describes one (`get?_of_addEntries`): entries with other ids, however malformed, do not
matter to it.

That holds of every reading that comes to its end. Two faults of an entry are not passed over but
end the whole reading (`EndsReading`): an id that cannot be printed, and a scope with a member that
no set can hold. One such entry takes all other clients with it (`ofConfig_isolates_entries`,
`ofConfig_of_nested_scope`). -/

namespace DeviceGrant

namespace Client

variable {known t : Table Client} {config entries : List (Value × Value)} {id : String}
  {entry : Value}

/-- The entries under the key `clients`; none where something else than a mapping stands there. -/
def entriesOf (config : List (Value × Value)) : List (Value × Value) :=
  match Value.orDefault (Value.field? "clients" config) (.map []) with
  | .map entries => entries
  | _ => []

/-- The entries whose key names a client id. -/
def entriesFor (id : String) (entries : List (Value × Value)) : List (Value × Value) :=
  entries.filter fun e => e.1.toText = id

/-- The client that an entry describes under an id. -/
def described? (id : String) (entry : Value) : Option Client :=
  match (ofEntry id entry).value with
  | .ok c => c
  | .error _ => none

/-- The client of the last entry that describes one. -/
def lastDescribed? (id : String) (entries : List (Value × Value)) : Option Client :=
  entries.reverse.findSome? fun e => described? id e.2

theorem described?_of_ok {c : Option Client} (h : (ofEntry id entry).value = .ok c) :
    described? id entry = c := by
  rw [described?, h]

/-! ## Entries that end the reading -/

/-- A mapping whose scope lists a member that no set can hold. -/
def ListsNonMember (entry : Value) : Prop :=
  ∃ fields scope members v, entry = .map fields ∧ Value.field? "scope" fields = some scope ∧
    scopeMembers? scope = some members ∧ v ∈ members ∧ v.isKey = false

/-- An entry whose id is too long to be printed, or whose scope lists a member that no set can
hold. -/
def EndsReading (e : Value × Value) : Prop :=
  e.1.isPrintable = false ∨ ListsNonMember e.2

theorem exists_nonMember?_iff {members : List Value} :
    (∃ kind, nonMember? members = some kind) ↔ ∃ v ∈ members, v.isKey = false := by
  rw [← Option.isSome_iff_exists]
  simp [nonMember?]

/-- A scope that counts as empty has no members. -/
theorem members_eq_nil {scope : Value} {members : List Value} (h : scope.isTruthy = false)
    (hmembers : scopeMembers? scope = some members) : members = [] := by
  cases scope with
  | text s =>
    obtain rfl : s = "" := by simpa [Value.isTruthy] using h
    exact (Option.some.inj hmembers).symm
  | list vs | tuple vs | set vs =>
    obtain rfl : vs = members := Option.some.inj hmembers
    simpa [Value.isTruthy] using h
  | _ => cases hmembers

/-- Whether the scope that is read has a member that no set can hold does not depend on the empty
scopes that the default takes the place of. -/
theorem listsNonMember_map_iff {fields : List (Value × Value)} :
    ListsNonMember (.map fields) ↔
      ∃ members, scopeMembers? (Value.orDefault (Value.field? "scope" fields) (.list [])) =
        some members ∧ ∃ kind, nonMember? members = some kind := by
  simp only [exists_nonMember?_iff]
  constructor
  · rintro ⟨_, scope, members, v, hmap, hscope, hmembers, hv, hkey⟩
    cases hmap
    cases htruthy : scope.isTruthy with
    | false =>
      rw [members_eq_nil htruthy hmembers] at hv
      cases hv
    | true =>
      refine ⟨members, ?_, v, hv, hkey⟩
      rw [hscope, Value.orDefault, if_pos htruthy]
      exact hmembers
  · rintro ⟨members, hmembers, v, hv, hkey⟩
    cases hscope : Value.field? "scope" fields with
    | none =>
      rw [hscope] at hmembers
      cases hmembers
      cases hv
    | some scope =>
      rw [hscope, Value.orDefault] at hmembers
      cases htruthy : scope.isTruthy with
      | false =>
        simp only [htruthy] at hmembers
        cases hmembers
        cases hv
      | true =>
        rw [if_pos htruthy] at hmembers
        exact ⟨fields, scope, members, v, rfl, hscope, hmembers, hv, hkey⟩

/-- An empty entry, and one that is no mapping, lists nothing. -/
theorem not_listsNonMember_of_not_truthy (h : entry.isTruthy = false) : ¬ ListsNonMember entry := by
  rintro ⟨fields, scope, _, _, rfl, hscope, _⟩
  obtain rfl : fields = [] := by simpa [Value.isTruthy] using h
  cases hscope

/-- An entry is read or passed over unless it lists a member that no set can hold. -/
theorem ofEntry_eq_error_iff (id : String) :
    (∃ f, (ofEntry id entry).value = .error f) ↔ ListsNonMember entry := by
  have hread : ∀ fields, Value.orDefault (some entry) (.map []) = .map fields →
      ((∃ f, (ofEntry id entry).value = .error f) ↔ ListsNonMember (.map fields)) := by
    intro fields hfields
    rw [listsNonMember_map_iff]
    simp only [ofEntry, hfields]
    cases hmembers : scopeMembers? (Value.orDefault (Value.field? "scope" fields) (.list [])) with
    | none => simp
    | some members =>
      cases hkind : nonMember? members with
      | some kind => simp [Logged.silent, hkind]
      | none =>
        simp only [Option.some.injEq, exists_eq_left', hkind]
        split <;> simp [Logged.silent]
  cases htruthy : entry.isTruthy with
  | false =>
    have hempty : Value.orDefault (some entry) (.map []) = .map [] := by
      simp [Value.orDefault, htruthy]
    rw [hread [] hempty]
    exact iff_of_false (not_listsNonMember_of_not_truthy rfl)
      (not_listsNonMember_of_not_truthy htruthy)
  | true =>
    have hself : Value.orDefault (some entry) (.map []) = entry := by
      simp [Value.orDefault, htruthy]
    cases entry with
    | map fields => exact hread fields hself
    | _ =>
      refine iff_of_false ?_ ?_
      · simp only [ofEntry, hself]
        simp
      · rintro ⟨fields, _, _, _, hmap, _⟩
        cases hmap

/-! ## Reading the entries -/

/-- The clients after an entry: with the client that it describes, if it describes one. -/
def putFound (known : Table Client) (id : String) : Option Client → Table Client
  | some c => known.put id c
  | none => known

theorem get?_putFound (known : Table Client) (id other : String) (c : Option Client) :
    (putFound known id c).get? other =
      if other = id then c.or (known.get? id) else known.get? other := by
  cases c with
  | none => by_cases h : other = id <;> simp [putFound, h]
  | some c => simp [putFound, Table.get?_put]

theorem lastDescribed?_cons (id : String) (e : Value × Value) (es : List (Value × Value)) :
    lastDescribed? id (e :: es) = (lastDescribed? id es).or (described? id e.2) := by
  simp [lastDescribed?, List.findSome?_append]

theorem addEntries_cons_of_not_printable {key : Value} (h : key.isPrintable = false)
    (rest : List (Value × Value)) :
    (addEntries known ((key, entry) :: rest)).value = .error .numberTooLong := by
  simp [addEntries, h, Logged.silent]

theorem addEntries_cons_of_error {key : Value} {f : Failure} (hkey : key.isPrintable = true)
    (h : (ofEntry key.toText entry).value = .error f) (rest : List (Value × Value)) :
    (addEntries known ((key, entry) :: rest)).value = .error f := by
  simp [addEntries, hkey, h]

theorem addEntries_cons_of_ok {key : Value} {c : Option Client} (hkey : key.isPrintable = true)
    (h : (ofEntry key.toText entry).value = .ok c) (rest : List (Value × Value)) :
    (addEntries known ((key, entry) :: rest)).value =
      (addEntries (putFound known key.toText c) rest).value := by
  cases c <;> simp [addEntries, hkey, h, putFound]

/-- The reading fails exactly if one of the entries ends it. -/
theorem addEntries_eq_error_iff :
    (∃ f, (addEntries known entries).value = .error f) ↔ ∃ e ∈ entries, EndsReading e := by
  induction entries generalizing known with
  | nil => simp [addEntries, Logged.silent]
  | cons e rest ih =>
    obtain ⟨key, entry⟩ := e
    simp only [List.mem_cons, exists_eq_or_imp]
    cases hkey : key.isPrintable with
    | false =>
      rw [addEntries_cons_of_not_printable hkey]
      exact iff_of_true ⟨_, rfl⟩ (.inl (.inl hkey))
    | true =>
      have hends : EndsReading (key, entry) ↔ ListsNonMember entry := by
        simp [EndsReading, hkey]
      rw [hends, ← ofEntry_eq_error_iff key.toText]
      cases hentry : (ofEntry key.toText entry).value with
      | error f =>
        rw [addEntries_cons_of_error hkey hentry]
        exact iff_of_true ⟨f, rfl⟩ (.inl ⟨f, rfl⟩)
      | ok c =>
        rw [addEntries_cons_of_ok hkey hentry, ih]
        simp

/-- What stands under an id is the client of the last entry with that id that describes one, or
what stood there before. -/
theorem get?_of_addEntries (h : (addEntries known entries).value = .ok t) (id : String) :
    t.get? id = (lastDescribed? id (entriesFor id entries)).or (known.get? id) := by
  induction entries generalizing known with
  | nil =>
    obtain rfl : known = t := Except.ok.inj h
    rfl
  | cons e rest ih =>
    obtain ⟨key, entry⟩ := e
    cases hkey : key.isPrintable with
    | false =>
      rw [addEntries_cons_of_not_printable hkey] at h
      cases h
    | true =>
      cases hentry : (ofEntry key.toText entry).value with
      | error f =>
        rw [addEntries_cons_of_error hkey hentry] at h
        cases h
      | ok c =>
        rw [addEntries_cons_of_ok hkey hentry] at h
        rw [ih h, get?_putFound]
        by_cases hid : id = key.toText
        · -- The entry has this id: later ones come before it, and it before the known clients.
          subst hid
          have hfor : entriesFor key.toText ((key, entry) :: rest) =
              (key, entry) :: entriesFor key.toText rest := by
            simp [entriesFor]
          rw [if_pos rfl, hfor, lastDescribed?_cons, described?_of_ok hentry, Option.or_assoc]
        · have hfor : entriesFor id ((key, entry) :: rest) = entriesFor id rest := by
            simp [entriesFor, Ne.symm hid]
          rw [if_neg hid, hfor]

/-! ## Configurations -/

theorem value_ofConfig (config : List (Value × Value)) :
    (ofConfig config).value = (addEntries .empty (entriesOf config)).value := by
  unfold ofConfig entriesOf
  generalize Value.orDefault (Value.field? "clients" config) (.map []) = clients
  cases clients <;> rfl

/-- A configuration is read to its end exactly if none of its entries has an id that cannot be
printed or a scope with a member that no set can hold. Then what stands under an id is the client
of the last entry with that id that describes one, so it is the same in every other configuration
with the same entries for that id, whatever its other entries are; and every client stands under
its own id. -/
theorem ofConfig_isolates_entries (config : List (Value × Value)) :
    ((∃ f, (ofConfig config).value = .error f) ↔ ∃ e ∈ entriesOf config, EndsReading e) ∧
    ∀ t, (ofConfig config).value = .ok t →
      (∀ id, t.get? id = lastDescribed? id (entriesFor id (entriesOf config))) ∧
      (∀ config' t', (ofConfig config').value = .ok t' → ∀ id,
        entriesFor id (entriesOf config') = entriesFor id (entriesOf config) →
          t'.get? id = t.get? id) ∧
      ∀ id c, t.get? id = some c → c.clientId = id := by
  have hlast : ∀ config t, (ofConfig config).value = .ok t →
      ∀ id, t.get? id = lastDescribed? id (entriesFor id (entriesOf config)) := by
    intro config t ht id
    rw [value_ofConfig] at ht
    rw [get?_of_addEntries ht, Table.get?_empty, Option.or_none]
  refine ⟨?_, fun t ht => ⟨hlast config t ht, ?_, fun id c hc => Keyed.ofConfig ht id c hc⟩⟩
  · rw [value_ofConfig]
    exact addEntries_eq_error_iff
  · intro config' t' ht' id hsame
    rw [hlast config' t' ht', hlast config t ht, hsame]

/-- An entry of a client with the given scope. -/
def sampleEntry (id : String) (scope : List Value) : Value × Value :=
  (.text id, .map [(.text "scope", .list scope)])

/-- A configuration of entries. -/
def sampleConfig (entries : List (Value × Value)) : List (Value × Value) :=
  [(.text "clients", .map entries)]

/-- An app that is read on its own is lost when another entry lists a list in its scope. -/
theorem ofConfig_of_nested_scope :
    (∃ t c, (ofConfig (sampleConfig [sampleEntry "app" [.text "read"]])).value = .ok t ∧
      t.get? "app" = some c) ∧
    (ofConfig (sampleConfig [sampleEntry "broken" [.list [.text "x"]],
      sampleEntry "app" [.text "read"]])).value = .error (.notMember "list") :=
  ⟨⟨_, _, rfl, rfl⟩, rfl⟩

end Client

end DeviceGrant
