import DeviceGrant.Registry
import Mathlib.Data.List.Induction
import Mathlib.Data.List.Nodup
set_option autoImplicit false

/-! # A registry answers from a snapshot of its file

The registry of a clients file reads it late and keeps what it has read: the file may be rewritten,
removed or made unreadable between two look-ups, and a reload makes the registry forget. Which state
of the file an answer goes back to is said here by the calls alone. `ClientsFile.after` is the file as
the changes leave it; a run is `Unread` while no look-up since the last reload met a file that could
be read to its end; the first look-up of an unread run that meets one `Takes` a snapshot, which is
`Current` until the next reload.

One lemma says what a look-up does in an unread run and one what it does while a snapshot is
current; that every run is one or the other (`after_cases`) is the invariant that ties the clients
in the registry to a past state of the file. From it: what every look-up answers
(`lookups_follow_snapshots`).

None of this depends on the format of the file: the parser may be any. -/

namespace DeviceGrant

/-! ## Calls -/

/-- What happens around the registry of a clients file. -/
inductive FileCall
  | change (content : ClientsFile)
  | lookup (id : String)
  | reload

/-- The file after a sequence of calls: as the last change left it. -/
def ClientsFile.after (file : ClientsFile) (calls : List FileCall) : ClientsFile :=
  calls.foldl (fun file call =>
    match call with
    | .change content => content
    | _ => file) file

theorem ClientsFile.after_append_singleton (file : ClientsFile) (calls : List FileCall)
    (call : FileCall) : file.after (calls ++ [call]) = (file.after calls).after [call] := by
  simp only [after, List.foldl_append]

namespace Registry

/-- A call in a run is the last one or one of those before it. -/
theorem split_append_singleton {calls before since : List FileCall} {call first : FileCall}
    (h : calls ++ [call] = before ++ first :: since) :
    (before = calls ∧ first = call) ∨
      ∃ since', since = since' ++ [call] ∧ calls = before ++ first :: since' := by
  rcases List.eq_nil_or_concat since with rfl | ⟨since', last, rfl⟩
  · obtain ⟨hcalls, hcall⟩ := List.append_inj' h rfl
    exact .inl ⟨hcalls.symm, (List.singleton_inj.1 hcall).symm⟩
  · rw [List.concat_eq_append, ← List.cons_append, ← List.append_assoc] at h
    obtain ⟨hcalls, hcall⟩ := List.append_inj' h rfl
    obtain rfl := List.singleton_inj.1 hcall
    exact .inr ⟨since', List.concat_eq_append, hcalls⟩

end Registry

/-! ## Lines that tell of a loaded file -/

/-- Whether an event tells that a clients file has been loaded. -/
def Event.isClientsLoaded : Event → Bool
  | .clientsLoaded .. => true
  | _ => false

namespace Registry

/-- The lines of a log that tell of a loaded clients file. -/
def loadedLines (events : List Event) : List Event := events.filter Event.isClientsLoaded

theorem loadedLines_append (events events' : List Event) :
    loadedLines (events ++ events') = loadedLines events ++ loadedLines events' :=
  List.filter_append ..

theorem loadedLines_ofEntry (id : String) (entry : Value) :
    loadedLines (Client.ofEntry id entry).events = [] := by
  unfold Client.ofEntry
  dsimp only
  split
  · split
    · rfl
    · split
      · rfl
      · split <;> rfl
  · rfl

theorem loadedLines_addEntries (known : Table Client) (entries : List (Value × Value)) :
    loadedLines (Client.addEntries known entries).events = [] := by
  induction entries generalizing known with
  | nil => rfl
  | cons e rest ih =>
    obtain ⟨key, entry⟩ := e
    unfold Client.addEntries
    split
    · rfl
    · dsimp only
      split
      · exact loadedLines_ofEntry ..
      · rw [loadedLines_append, loadedLines_ofEntry, ih, List.append_nil]

theorem loadedLines_ofConfig (config : List (Value × Value)) :
    loadedLines (Client.ofConfig config).events = [] := by
  unfold Client.ofConfig
  split
  · exact loadedLines_addEntries ..
  · rfl

end Registry

variable [ClientsFile.Parser]

/-! ## What a file lists -/

namespace ClientsFile

variable {path : String} {file : ClientsFile}

/-- The clients that a file lists, or the fault that ends its reading. -/
def clients (path : String) (file : ClientsFile) : Except Failure (Table Client) :=
  (Client.ofConfig (file.load path).value).value

/-- A file that is missing, that cannot be read or parsed, or that holds something else than a
mapping. -/
def HoldsNoMapping : ClientsFile → Prop
  | missing => True
  | unreadable => True
  | octets content => ∀ entries, Parser.value? content ≠ some (.map entries)

theorem load_of_holdsNoMapping (h : file.HoldsNoMapping) : (file.load path).value = [] := by
  cases file with
  | missing => rfl
  | unreadable => rfl
  | octets content =>
    simp only [load]
    split
    · next entries hvalue => exact absurd hvalue (h entries)
    · rfl
    · rfl

/-- Such a file lists no clients, and this is no fault. -/
theorem clients_of_holdsNoMapping (h : file.HoldsNoMapping) : file.clients path = .ok .empty := by
  rw [clients, load_of_holdsNoMapping h]
  rfl

end ClientsFile

/-! ## The registry after calls -/

namespace Registry

/-- The registry after a call. -/
def perform (r : Registry) : FileCall → Registry
  | .change content => r.withContent content
  | .lookup id => (r.lookup id).2
  | .reload => r.reload

/-- What is told of a call. -/
def eventsOf (r : Registry) : FileCall → List Event
  | .lookup id => (r.lookup id).1.events
  | _ => []

/-- The registry after a sequence of calls. -/
def after (r : Registry) (calls : List FileCall) : Registry := calls.foldl perform r

/-- What is told of a sequence of calls. -/
def log (r : Registry) : List FileCall → List Event
  | [] => []
  | call :: calls => r.eventsOf call ++ (r.perform call).log calls

theorem after_append_singleton (r : Registry) (calls : List FileCall) (call : FileCall) :
    r.after (calls ++ [call]) = (r.after calls).perform call := by
  simp only [after, List.foldl_append, List.foldl_cons, List.foldl_nil]

theorem log_append_singleton (r : Registry) (calls : List FileCall) (call : FileCall) :
    r.log (calls ++ [call]) = r.log calls ++ (r.after calls).eventsOf call := by
  induction calls generalizing r with
  | nil => simp [log, after]
  | cons first calls ih => simp [log, after, ih]

/-! ## Snapshots -/

section Snapshots

variable (path : String) (content : ClientsFile)

/-- No look-up since the last reload, or since the start, met a file that could be read to its
end. -/
def Unread (calls : List FileCall) : Prop :=
  ∀ before id since, calls = before ++ .lookup id :: since → .reload ∉ since →
    ∃ f, (content.after before).clients path = .error f

/-- A look-up after these calls takes a snapshot of the file: it is the first one since the last
reload, or since the start, that meets a file that can be read to its end. -/
structure Takes (before : List FileCall) (clients : Table Client) : Prop where
  unread : Unread path content before
  read : (content.after before).clients path = .ok clients

/-- The snapshot that a look-up took after some of the calls, with no reload since. -/
structure Current (calls before : List FileCall) (clients : Table Client) : Prop where
  takes : Takes path content before clients
  since : ∃ id since, calls = before ++ .lookup id :: since ∧ .reload ∉ since

variable {path content} {calls before : List FileCall} {call : FileCall} {id : String}
  {t : Table Client}

/-- An unread run has no snapshot. -/
theorem Current.not_unread (h : Current path content calls before t) :
    ¬ Unread path content calls := by
  intro hunread
  obtain ⟨id, since, hcalls, hreload⟩ := h.since
  obtain ⟨f, hf⟩ := hunread before id since hcalls hreload
  rw [h.takes.read] at hf
  cases hf

theorem unread_nil : Unread path content [] := by
  intro before id since h
  simp at h

/-- After a reload nothing has been read yet. -/
theorem unread_reload : Unread path content (calls ++ [.reload]) := by
  intro before id since hcalls hreload
  rcases split_append_singleton hcalls with ⟨_, hcall⟩ | ⟨since', rfl, _⟩
  · cases hcall
  · simp at hreload

/-- A run stays unread with a call that is no look-up, and with one that meets a faulty file. -/
theorem Unread.append_singleton (h : Unread path content calls)
    (hcall : ∀ id, call = .lookup id →
      ∃ f, (content.after calls).clients path = .error f) :
    Unread path content (calls ++ [call]) := by
  intro before id since hcalls hreload
  rcases split_append_singleton hcalls with ⟨rfl, hfirst⟩ | ⟨since', rfl, hbefore⟩
  · exact hcall id hfirst.symm
  · exact h before id since' hbefore fun hmem => hreload (List.mem_append_left _ hmem)

/-- A snapshot stays current until the next reload. -/
theorem Current.append (h : Current path content calls before t) {later : List FileCall}
    (hlater : .reload ∉ later) : Current path content (calls ++ later) before t := by
  obtain ⟨id, since, rfl, hreload⟩ := h.since
  refine ⟨h.takes, id, since ++ later, by simp, ?_⟩
  simp only [List.mem_append, not_or]
  exact ⟨hreload, hlater⟩

theorem Takes.current (h : Takes path content calls t) (id : String) :
    Current path content (calls ++ [.lookup id]) calls t :=
  ⟨h, id, [], rfl, by simp⟩

/-! ## Look-ups -/

theorem loadedLines_load (path : String) (file : ClientsFile) :
    loadedLines (file.load path).events = [] := by
  cases file with
  | missing => rfl
  | unreadable => rfl
  | octets content =>
    simp only [ClientsFile.load]
    split <;> rfl

/-- A reading that comes to its end is told once, with the number of clients. -/
theorem readFile_of_ok {file : ClientsFile} (h : file.clients path = .ok t) :
    (readFile path file).value = .ok t ∧
      loadedLines (readFile path file).events = [.clientsLoaded t.size path] := by
  rw [ClientsFile.clients] at h
  simp only [readFile, h, loadedLines_append, loadedLines_load, loadedLines_ofConfig, true_and]
  rfl

theorem readFile_of_error {file : ClientsFile} {f : Failure} (h : file.clients path = .error f) :
    (readFile path file).value = .error f ∧ loadedLines (readFile path file).events = [] := by
  rw [ClientsFile.clients] at h
  simp only [readFile, h, loadedLines_append, loadedLines_load, loadedLines_ofConfig,
    List.append_nil, and_self]

/-- What is read already is answered without the file. -/
theorem lookup_of_snapshot (path : String) (file : ClientsFile) (t : Table Client) (id : String) :
    let out := (Registry.file path file (some t)).lookup id
    out.1.value = .ok (t.get? id) ∧ loadedLines out.1.events = [] ∧
      out.2 = .file path file (some t) := by
  dsimp only [lookup]
  cases t.get? id <;> exact ⟨rfl, rfl, rfl⟩

/-- A registry that has read nothing reads the file as it is, and keeps the clients. -/
theorem lookup_of_ok {file : ClientsFile} (h : file.clients path = .ok t) (id : String) :
    let out := (Registry.file path file none).lookup id
    out.1.value = .ok (t.get? id) ∧ loadedLines out.1.events = [.clientsLoaded t.size path] ∧
      out.2 = .file path file (some t) := by
  obtain ⟨hvalue, hevents⟩ := readFile_of_ok h
  dsimp only [lookup]
  simp only [hvalue, loadedLines_append, hevents, and_true]
  cases t.get? id <;> exact ⟨rfl, rfl⟩

/-- A reading that fails leaves nothing behind. -/
theorem lookup_of_error {file : ClientsFile} {f : Failure} (h : file.clients path = .error f)
    (id : String) :
    let out := (Registry.file path file none).lookup id
    out.1.value = .error f ∧ loadedLines out.1.events = [] ∧ out.2 = .file path file none := by
  obtain ⟨hvalue, hevents⟩ := readFile_of_error h
  dsimp only [lookup]
  simp only [hvalue, hevents, and_self]

/-- A look-up that finds an answer leaves the clients in the registry in which it has found it. -/
theorem value_lookup_eq_ok_iff {file : ClientsFile} {snapshot : Option (Table Client)}
    {found : Option Client} :
    let out := (Registry.file path file snapshot).lookup id
    out.1.value = .ok found ↔ ∃ t, out.2 = .file path file (some t) ∧ t.get? id = found := by
  intro out
  have hsome : ∀ t : Table Client, out.1.value = .ok (t.get? id) →
      out.2 = .file path file (some t) →
        (out.1.value = .ok found ↔ ∃ t, out.2 = .file path file (some t) ∧ t.get? id = found) := by
    intro t hvalue hafter
    simp [hvalue, hafter]
  cases snapshot with
  | some t =>
    obtain ⟨hvalue, _, hafter⟩ := lookup_of_snapshot path file t id
    exact hsome t hvalue hafter
  | none =>
    cases hread : file.clients path with
    | ok t =>
      obtain ⟨hvalue, _, hafter⟩ := lookup_of_ok hread id
      exact hsome t hvalue hafter
    | error f =>
      obtain ⟨hvalue, _, hafter⟩ := lookup_of_error hread id
      simp [out, hvalue, hafter]

/-- Only a reload drops what has been read. -/
theorem perform_of_snapshot (path : String) (file : ClientsFile) (t : Table Client)
    (hcall : call ≠ .reload) :
    (Registry.file path file (some t)).perform call =
      .file path (file.after [call]) (some t) := by
  cases call with
  | change content => rfl
  | lookup id => exact (lookup_of_snapshot path file t id).2.2
  | reload => exact absurd rfl hcall

/-! ## Runs -/

/-- A registry that was started on a file, after a run: the file is as the changes left it, and
either nothing has been read since the last reload, or a snapshot is current and its clients are
what the registry holds. -/
theorem after_cases (path : String) (content : ClientsFile) (calls : List FileCall) :
    (Unread path content calls ∧ (Registry.file path content none).after calls =
      .file path (content.after calls) none) ∨
    ∃ before t, Current path content calls before t ∧
      (Registry.file path content none).after calls =
        .file path (content.after calls) (some t) := by
  induction calls using List.reverseRecOn with
  | nil => exact .inl ⟨unread_nil, rfl⟩
  | append_singleton calls call ih =>
    rw [after_append_singleton, ClientsFile.after_append_singleton]
    rcases ih with ⟨hunread, hafter⟩ | ⟨before, t, hcurrent, hafter⟩
    · rw [hafter]
      cases call with
      | change file => exact .inl ⟨hunread.append_singleton nofun, rfl⟩
      | reload => exact .inl ⟨unread_reload, rfl⟩
      | lookup id =>
        cases hread : (content.after calls).clients path with
        | error f =>
          have hstays : Unread path content (calls ++ [.lookup id]) :=
            hunread.append_singleton fun _ _ => ⟨f, hread⟩
          exact .inl ⟨hstays, (lookup_of_error hread id).2.2⟩
        | ok t =>
          have htakes : Takes path content calls t := ⟨hunread, hread⟩
          exact .inr ⟨calls, t, htakes.current id, (lookup_of_ok hread id).2.2⟩
    · rw [hafter]
      by_cases hcall : call = .reload
      · subst hcall
        exact .inl ⟨unread_reload, rfl⟩
      · have hstays : Current path content (calls ++ [call]) before t :=
          hcurrent.append (by simpa using Ne.symm hcall)
        exact .inr ⟨before, t, hstays, perform_of_snapshot path _ t hcall⟩

theorem after_of_unread (h : Unread path content calls) :
    (Registry.file path content none).after calls =
      .file path (content.after calls) none := by
  rcases after_cases path content calls with ⟨_, hafter⟩ | ⟨before, t, hcurrent, _⟩
  · exact hafter
  · exact absurd h hcurrent.not_unread

/-- The registry holds the clients of the current snapshot, however the file has changed since. -/
theorem after_of_current (h : Current path content calls before t) :
    (Registry.file path content none).after calls =
      .file path (content.after calls) (some t) := by
  obtain ⟨id, since, rfl, hreload⟩ := h.since
  -- On the calls since the snapshot was taken, none of which is a reload.
  induction since using List.reverseRecOn with
  | nil =>
    rw [after_append_singleton, after_of_unread h.takes.unread, ClientsFile.after_append_singleton]
    exact (lookup_of_ok h.takes.read id).2.2
  | append_singleton since call ih =>
    simp only [List.mem_append, List.mem_singleton, not_or] at hreload
    rw [← List.cons_append, ← List.append_assoc, after_append_singleton,
      ClientsFile.after_append_singleton, ih hreload.1 ⟨h.takes, id, since, rfl, hreload.1⟩]
    exact perform_of_snapshot path _ t (Ne.symm hreload.2)

/-! ## What is told -/

/-- The snapshots that the look-ups of a run have taken, each with the calls before it. -/
def TakenIn (path : String) (content : ClientsFile) (calls : List FileCall)
    (e : List FileCall × Table Client) : Prop :=
  Takes path content e.1 e.2 ∧ ∃ id since, calls = e.1 ++ .lookup id :: since

theorem takenIn_append_singleton {e : List FileCall × Table Client} :
    TakenIn path content (calls ++ [call]) e ↔
      TakenIn path content calls e ∨
      (∃ id, call = .lookup id) ∧ e.1 = calls ∧ Takes path content calls e.2 := by
  constructor
  · rintro ⟨htakes, id, since, hcalls⟩
    rcases split_append_singleton hcalls with ⟨hbefore, hcall⟩ | ⟨since', _, hcalls'⟩
    · exact .inr ⟨⟨id, hcall.symm⟩, hbefore, hbefore ▸ htakes⟩
    · exact .inl ⟨htakes, id, since', hcalls'⟩
  · rintro (⟨htakes, id, since, rfl⟩ | ⟨⟨id, rfl⟩, hbefore, htakes⟩)
    · exact ⟨htakes, id, since ++ [call], by simp⟩
    · exact ⟨hbefore ▸ htakes, id, [], by rw [hbefore]⟩

/-- A look-up tells that the file has been loaded exactly if it takes a snapshot. -/
theorem loadedLines_lookup (path : String) (content : ClientsFile) (calls : List FileCall)
    (id : String) :
    let told := loadedLines (((Registry.file path content none).after calls).lookup id).1.events
    (∀ t, Takes path content calls t → told = [.clientsLoaded t.size path]) ∧
      ((∀ t, ¬ Takes path content calls t) → told = []) := by
  rcases after_cases path content calls with ⟨hunread, hafter⟩ | ⟨before, t, hcurrent, hafter⟩
  · rw [hafter]
    refine ⟨fun t htakes => (lookup_of_ok htakes.read id).2.1, fun hnone => ?_⟩
    cases hread : (content.after calls).clients path with
    | error f => exact (lookup_of_error hread id).2.1
    | ok t => exact absurd ⟨hunread, hread⟩ (hnone t)
  · rw [hafter]
    refine ⟨fun t htakes => absurd htakes.unread hcurrent.not_unread, fun _ => ?_⟩
    exact (lookup_of_snapshot path _ t id).2.1

/-- The log of a run tells once of each snapshot that was taken, and of nothing else that it was
loaded. -/
theorem exists_taken (path : String) (content : ClientsFile) (calls : List FileCall) :
    ∃ taken : List (List FileCall × Table Client), taken.Nodup ∧
      (∀ e, e ∈ taken ↔ TakenIn path content calls e) ∧
      loadedLines ((Registry.file path content none).log calls) =
        taken.map fun e => .clientsLoaded e.2.size path := by
  induction calls using List.reverseRecOn with
  | nil => exact ⟨[], by simp, by simp [TakenIn], rfl⟩
  | append_singleton calls call ih =>
    obtain ⟨taken, hnodup, hmem, hlog⟩ := ih
    simp only [log_append_singleton, loadedLines_append, hlog, takenIn_append_singleton]
    by_cases hnew : ∃ id t, call = .lookup id ∧ Takes path content calls t
    · obtain ⟨id, t, rfl, htakes⟩ := hnew
      refine ⟨taken ++ [(calls, t)], ?_, fun e => ?_, ?_⟩
      · -- The snapshots of before were taken after fewer calls.
        have hfresh : (calls, t) ∉ taken := by
          intro hold
          obtain ⟨_, id', since, hcalls⟩ := (hmem _).1 hold
          simp at hcalls
        simpa [List.nodup_append] using ⟨hnodup, fun b t' hold hb ht => hfresh (by rwa [← hb, ← ht])⟩
      · obtain ⟨before, t'⟩ := e
        have hsame : Takes path content calls t' → t' = t := fun htakes' =>
          Except.ok.inj (htakes'.read.symm.trans htakes.read)
        simp only [List.mem_append, List.mem_singleton, hmem, Prod.mk.injEq]
        constructor
        · rintro (hold | ⟨rfl, rfl⟩)
          · exact .inl hold
          · exact .inr ⟨⟨id, rfl⟩, rfl, htakes⟩
        · rintro (hold | ⟨_, hbefore, htakes'⟩)
          · exact .inl hold
          · exact .inr ⟨hbefore, hsame htakes'⟩
      · rw [List.map_append]
        exact congrArg _ ((loadedLines_lookup path content calls id).1 t htakes)
    · refine ⟨taken, hnodup, fun e => ?_, ?_⟩
      · rw [hmem, iff_self_or]
        rintro ⟨⟨id, hcall⟩, _, htakes⟩
        exact absurd ⟨id, e.2, hcall, htakes⟩ hnew
      · have hsilent : loadedLines
            (((Registry.file path content none).after calls).eventsOf call) = [] := by
          cases call with
          | lookup id =>
            refine (loadedLines_lookup path content calls id).2 fun t htakes => ?_
            exact hnew ⟨id, t, rfl, htakes⟩
          | change file => rfl
          | reload => rfl
        rw [hsilent, List.append_nil]

/-! ## Answers -/

/-- While a snapshot is current, every look-up finds what it lists. -/
theorem lookup_of_current (h : Current path content calls before t) (id : String) :
    (((Registry.file path content none).after calls).lookup id).1.value = .ok (t.get? id) := by
  rw [after_of_current h]
  exact (lookup_of_snapshot path _ t id).1

/-- A look-up in a run that has read nothing finds what the file lists, or its fault. -/
theorem lookup_of_unread (h : Unread path content calls) (id : String) :
    (((Registry.file path content none).after calls).lookup id).1.value =
      ((content.after calls).clients path).map (·.get? id) := by
  rw [after_of_unread h]
  cases hread : (content.after calls).clients path with
  | ok t => exact (lookup_of_ok hread id).1
  | error f => exact (lookup_of_error hread id).1

/-- What is found is what a snapshot lists that is current once the look-up is over. -/
theorem lookup_eq_ok_iff_current (path : String) (content : ClientsFile) (calls : List FileCall)
    (id : String) (found : Option Client) :
    (((Registry.file path content none).after calls).lookup id).1.value = .ok found ↔
      ∃ before t, Current path content (calls ++ [.lookup id]) before t ∧ t.get? id = found := by
  have hfound : (((Registry.file path content none).after calls).lookup id).1.value = .ok found ↔
      ∃ t, (Registry.file path content none).after (calls ++ [.lookup id]) =
        .file path (content.after calls) (some t) ∧ t.get? id = found := by
    rw [after_append_singleton]
    rcases after_cases path content calls with ⟨_, hafter⟩ | ⟨_, t, _, hafter⟩
    · rw [hafter]
      exact value_lookup_eq_ok_iff
    · rw [hafter]
      exact value_lookup_eq_ok_iff
  have hfile : content.after (calls ++ [.lookup id]) = content.after calls :=
    content.after_append_singleton calls _
  rw [hfound, ← hfile]
  constructor
  · rintro ⟨t, hafter, hget⟩
    rcases after_cases path content (calls ++ [.lookup id]) with
      ⟨_, hnone⟩ | ⟨before, t', hcurrent, hsome⟩
    · rw [hafter] at hnone
      cases hnone
    · rw [hafter] at hsome
      cases hsome
      exact ⟨before, t, hcurrent, hget⟩
  · rintro ⟨before, t, hcurrent, hget⟩
    exact ⟨t, after_of_current hcurrent, hget⟩

/-- A look-up that fails has met a faulty file in a run that had read nothing, and still has not. -/
theorem unread_of_lookup_error {f : Failure}
    (h : (((Registry.file path content none).after calls).lookup id).1.value = .error f) :
    (((Registry.file path content none).after calls).lookup id).2 =
        (Registry.file path content none).after calls ∧
      Unread path content calls ∧ Unread path content (calls ++ [.lookup id]) := by
  rcases after_cases path content calls with ⟨hunread, hafter⟩ | ⟨before, t, hcurrent, _⟩
  · cases hread : (content.after calls).clients path with
    | ok t =>
      rw [lookup_of_unread hunread, hread] at h
      cases h
    | error g =>
      refine ⟨?_, hunread, hunread.append_singleton fun _ _ => ⟨g, hread⟩⟩
      rw [hafter]
      exact (lookup_of_error hread id).2.2
  · rw [lookup_of_current hcurrent] at h
    cases h

/-- Every look-up in a run of a registry on a clients file, however the file changes in between and
whatever parser reads it. It finds what a snapshot lists, namely the one that was taken by the first
look-up since the start or the last reload that met a file that could be read to its end; this may
be the look-up itself. So until the next reload no change of the file is seen. A file that holds no
mapping counts: the snapshot is then empty. A look-up in a run that has read nothing reads the file
as it is; where that fails the registry stays as it was, the run remains unread, and so the next
look-up reads again. And the log tells of a loaded file once for each snapshot that was taken. -/
theorem lookups_follow_snapshots (path : String) (content : ClientsFile) (past : List FileCall)
    (id : String) :
    let start := Registry.file path content none
    let out := (start.after past).lookup id
    (∀ found, out.1.value = .ok found ↔
      ∃ before t, Current path content (past ++ [.lookup id]) before t ∧ t.get? id = found) ∧
    (∀ before t, Current path content past before t → ∀ later, .reload ∉ later → ∀ other,
      ((start.after (past ++ later)).lookup other).1.value = .ok (t.get? other)) ∧
    (Unread path content past → (content.after past).HoldsNoMapping →
      Takes path content past .empty) ∧
    (Unread path content past →
      out.1.value = ((content.after past).clients path).map (·.get? id)) ∧
    (∀ f, out.1.value = .error f → out.2 = start.after past ∧ Unread path content past ∧
      Unread path content (past ++ [.lookup id])) ∧
    ∃ taken : List (List FileCall × Table Client), taken.Nodup ∧
      (∀ e, e ∈ taken ↔ TakenIn path content past e) ∧
      loadedLines (start.log past) = taken.map fun e => .clientsLoaded e.2.size path := by
  intro start out
  refine ⟨fun found => lookup_eq_ok_iff_current path content past id found, ?_, ?_, ?_, ?_,
    exists_taken path content past⟩
  · intro before t hcurrent later hreload other
    exact lookup_of_current (hcurrent.append hreload) other
  · intro hunread hempty
    exact ⟨hunread, ClientsFile.clients_of_holdsNoMapping hempty⟩
  · intro hunread
    exact lookup_of_unread hunread id
  · intro f hf
    exact unread_of_lookup_error hf

/-- A file that appears after the first look-up is not seen. -/
example (file : ClientsFile) :
    (((Registry.file path .missing none).after [.lookup id, .change file]).lookup id).1.value =
      .ok none := rfl

end Snapshots

end Registry

end DeviceGrant
