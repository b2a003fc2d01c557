import DeviceGrant.Registry
set_option autoImplicit false

/-! # Clients stand under their own ids

A registry finds a client under the id that the client itself has. For a fixed set this is how the
table is made; for a clients file the id of an entry goes into the data of the client, passes its
checks unchanged and is the name under which the client is put. `Arises` lists the ways in which a
registry can come about, and `Keyed` holds after each of them. -/

namespace DeviceGrant

/-! ## Checks that succeed -/

namespace Checked

variable {α β γ : Type}

theorem combine_eq_ok {f : α → β → γ} {x : Checked α} {y : Checked β} {c : γ} :
    combine f x y = .ok c ↔ ∃ a b, x = .ok a ∧ y = .ok b ∧ f a b = c := by
  cases x <;> cases y <;> simp [combine]

theorem under_eq_ok {step : PathStep} {x : Checked α} {a : α} :
    under step x = .ok a ↔ x = .ok a := by
  cases x <;> simp [under]

theorem refuseAs_eq_ok {subject : String} {x : Checked α} {a : α} :
    refuseAs subject x = .ok a ↔ x = .ok a := by
  cases x <;> simp [refuseAs]

end Checked

theorem Check.required_eq_ok {α : Type} {name : String} {check : Value → Checked α}
    {es : List (Value × Value)} {a : α} :
    Check.required name check es = .ok a ↔
      ∃ v, Value.field? name es = some v ∧ check v = .ok a := by
  unfold Check.required
  rw [Checked.under_eq_ok]
  cases h : Value.field? name es with
  | none => simp [Checked.issue]
  | some v => simp

/-- The first entry with a text key is the one that is found. -/
theorem Value.field?_cons_self (name : String) (v : Value) (es : List (Value × Value)) :
    Value.field? name ((.text name, v) :: es) = some v := by
  simp [Value.field?, Value.find?, Value.sameKey, Value.asNumber?]

/-! ## Tables of clients -/

/-- Every client of a table stands under its own id. -/
def Client.Keyed (t : Table Client) : Prop := ∀ id c, t.get? id = some c → c.clientId = id

namespace Client

variable {t known : Table Client} {id : String} {c : Client}

theorem Keyed.empty : Keyed .empty := by
  intro id c h
  simp at h

theorem Keyed.put (h : Keyed t) (hc : c.clientId = id) : Keyed (t.put id c) := by
  intro other d hd
  rw [Table.get?_put] at hd
  split at hd
  · next heq =>
    cases hd
    rw [heq]
    exact hc
  · exact h other d hd

theorem Keyed.ofList (clients : List Client) :
    Keyed (.ofList (clients.map fun c => (c.clientId, c))) := by
  have hfold : ∀ (cs : List Client) (t : Table Client), Keyed t →
      Keyed ((cs.map fun c => (c.clientId, c)).foldl (fun t e => t.put e.1 e.2) t) := by
    intro cs
    induction cs with
    | nil => intro t ht; exact ht
    | cons c cs ih => intro t ht; exact ih _ (ht.put rfl)
  exact hfold clients .empty Keyed.empty

/-- The checks of a client keep the id that the data gives. -/
theorem clientId_of_ofValue {members : List Value} {information : Value}
    (h : ofValue (entryData id members information) = .ok c) : c.clientId = id := by
  unfold ofValue at h
  rw [Checked.refuseAs_eq_ok] at h
  change Checked.combine _ (Checked.combine _ _ _) _ = _ at h
  obtain ⟨f, _, hf, _, rfl⟩ := Checked.combine_eq_ok.1 h
  obtain ⟨clientId, scope, hid, _, rfl⟩ := Checked.combine_eq_ok.1 hf
  -- The id is the first entry of the data, so it is the one that is checked.
  obtain ⟨v, hv, htext⟩ := Check.required_eq_ok.1 hid
  rw [Value.field?_cons_self] at hv
  cases hv
  cases htext
  rfl

theorem clientId_of_ofEntry {entry : Value} (h : (ofEntry id entry).value = .ok (some c)) :
    c.clientId = id := by
  unfold ofEntry at h
  dsimp only at h
  split at h
  · split at h
    · simp at h
    · split at h
      · simp [Logged.silent] at h
      · split at h
        · next hvalue =>
          simp only [Logged.silent, Except.ok.injEq, Option.some.injEq] at h
          subst h
          exact clientId_of_ofValue hvalue
        · simp at h
  · simp at h

theorem Keyed.addEntries (entries : List (Value × Value)) (h : Keyed known)
    (ht : (addEntries known entries).value = .ok t) : Keyed t := by
  induction entries generalizing known with
  | nil =>
    cases ht
    exact h
  | cons e rest ih =>
    obtain ⟨key, entry⟩ := e
    unfold Client.addEntries at ht
    split at ht
    · cases ht
    · simp only at ht
      cases hentry : (ofEntry key.toText entry).value with
      | error f => simp [hentry] at ht
      | ok found =>
        simp only [hentry] at ht
        cases found with
        | none => exact ih h ht
        | some c => exact ih (h.put (clientId_of_ofEntry hentry)) ht

theorem Keyed.ofConfig {config : List (Value × Value)}
    (ht : (ofConfig config).value = .ok t) : Keyed t := by
  unfold Client.ofConfig at ht
  split at ht
  · exact Keyed.empty.addEntries _ ht
  · cases ht
    exact Keyed.empty

end Client

/-! ## Registries -/

namespace Registry

variable {r : Registry} {id : String} {c : Client}

/-- The registries that can come about: a fixed set or a clients file at first, and then whatever
registrations, changes of the file, reloads and look-ups make of it. -/
inductive Arises : Registry → Prop
  | ofClients (clients : List Client) : Arises (.ofClients clients)
  | ofConfig {config : List (Value × Value)} {t : Table Client} :
    (Client.ofConfig config).value = .ok t → Arises (.fixed t)
  | file (path : String) (content : ClientsFile) : Arises (.file path content none)
  | register (c : Client) {r : Registry} : Arises r → Arises (r.register c)
  | withContent (content : ClientsFile) {r : Registry} : Arises r → Arises (r.withContent content)
  | reload {r : Registry} : Arises r → Arises r.reload
  | lookup (id : String) {r : Registry} : Arises r → Arises (r.lookup id).2

/-- Every client that a registry knows stands under its own id. -/
def Keyed : Registry → Prop
  | .fixed clients => Client.Keyed clients
  | .file _ _ (some clients) => Client.Keyed clients
  | .file _ _ none => True

theorem keyed_of_readFile {path : String} {content : ClientsFile} {t : Table Client}
    (h : (readFile path content).value = .ok t) : Client.Keyed t := by
  unfold readFile at h
  simp only at h
  cases hconfig : (Client.ofConfig (content.load path).value).value with
  | error f => simp [hconfig] at h
  | ok t' =>
    simp only [hconfig, Except.ok.injEq] at h
    subst h
    exact Client.Keyed.ofConfig hconfig

/-- A look-up keeps the clients under their ids, and finds a client by its id. -/
theorem Keyed.lookup (h : r.Keyed) (id : String) :
    (r.lookup id).2.Keyed ∧
      ∀ c, (r.lookup id).1.value = .ok (some c) → c.clientId = id := by
  unfold Registry.lookup
  match r, h with
  | .fixed clients, h =>
    exact ⟨h, fun c hc => h id c (by simpa [Logged.silent] using hc)⟩
  | .file _ _ (some t), h =>
    refine ⟨h, fun c hc => h id c ?_⟩
    simp only at hc
    split at hc <;> simp_all [Logged.silent]
  | .file path content none, _ =>
    simp only
    cases hread : (readFile path content).value with
    | error f => simp [Keyed]
    | ok t =>
      have ht := keyed_of_readFile hread
      refine ⟨ht, fun c hc => ht id c ?_⟩
      simp only at hc
      split at hc <;> simp_all [Logged.silent]

theorem Arises.keyed (h : r.Arises) : r.Keyed := by
  induction h with
  | ofClients clients => exact Client.Keyed.ofList clients
  | ofConfig ht => exact Client.Keyed.ofConfig ht
  | file path content => trivial
  | register c _ ih =>
    rename_i r _
    match r, ih with
    | .fixed clients, ih => exact Client.Keyed.put ih rfl
    | .file _ _ _, ih => exact ih
  | withContent content _ ih =>
    rename_i r _
    match r, ih with
    | .fixed clients, ih => exact ih
    | .file _ _ (some _), ih => exact ih
    | .file _ _ none, ih => exact ih
  | reload _ ih =>
    rename_i r _
    match r, ih with
    | .fixed clients, ih => exact ih
    | .file _ _ _, _ => trivial
  | lookup id _ ih => exact (ih.lookup id).1

end Registry

end DeviceGrant
