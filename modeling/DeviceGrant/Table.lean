set_option autoImplicit false

/-! # Tables

A table holds one value for each of some names, in the order in which the names were first put.
Putting a name again replaces its value and keeps its place; erasing it and putting it again moves
it to the end. The type carries the proof that no name stands twice, so what a table holds is
settled by `get?`: the lemmas below give `get?` after every operation. -/

namespace DeviceGrant

variable {α : Type}

/-- Values under names, in order of first insertion. -/
structure Table (α : Type) where
  entries : List (String × α)
  nodup : (entries.map (·.1)).Nodup

namespace Table

/-! ## Operations on entries -/

/-- Entries after a name gets a value. -/
def putIn (name : String) (value : α) : List (String × α) → List (String × α)
  | [] => [(name, value)]
  | (n, v) :: rest => if n = name then (n, value) :: rest else (n, v) :: putIn name value rest

/-- The value of a name among entries. -/
def lookIn (name : String) : List (String × α) → Option α
  | [] => none
  | (n, v) :: rest => if n = name then some v else lookIn name rest

theorem map_fst_putIn (name : String) (value : α) (es : List (String × α)) :
    (putIn name value es).map (·.1) =
      if name ∈ es.map (·.1) then es.map (·.1) else es.map (·.1) ++ [name] := by
  induction es with
  | nil => simp [putIn]
  | cons e es ih => obtain ⟨n, v⟩ := e; grind [putIn]

theorem lookIn_putIn (name other : String) (value : α) (es : List (String × α)) :
    lookIn other (putIn name value es) = if other = name then some value else lookIn other es := by
  induction es with
  | nil => grind [putIn, lookIn]
  | cons e es ih => obtain ⟨n, v⟩ := e; grind [putIn, lookIn]

theorem lookIn_eq_none_iff {name : String} {es : List (String × α)} :
    lookIn name es = none ↔ name ∉ es.map (·.1) := by
  induction es with
  | nil => simp [lookIn]
  | cons e es ih => obtain ⟨n, v⟩ := e; grind [lookIn]

theorem lookIn_eq_some_iff {name : String} {value : α} {es : List (String × α)}
    (h : (es.map (·.1)).Nodup) : lookIn name es = some value ↔ (name, value) ∈ es := by
  induction es with
  | nil => simp [lookIn]
  | cons e es ih =>
    obtain ⟨n, v⟩ := e
    have hn : n ∉ es.map (·.1) := (List.nodup_cons.1 (by simpa using h)).1
    have ih := ih (List.nodup_cons.1 (by simpa using h)).2
    by_cases hname : n = name
    · subst hname
      rw [lookIn, if_pos rfl, Option.some.injEq, List.mem_cons, Prod.mk.injEq]
      constructor
      · intro hv; exact .inl ⟨rfl, hv.symm⟩
      · rintro (⟨_, hv⟩ | hv)
        · exact hv.symm
        · exact absurd (List.mem_map_of_mem hv) hn
    · simp [lookIn, hname, ih, Ne.symm hname]

/-! ## Operations on tables -/

/-- The table without entries. -/
def empty : Table α := ⟨[], by simp⟩

instance : Inhabited (Table α) := ⟨empty⟩
instance : EmptyCollection (Table α) := ⟨empty⟩

/-- The value of a name. -/
def get? (t : Table α) (name : String) : Option α := lookIn name t.entries

/-- The names, in order of first insertion. -/
def names (t : Table α) : List String := t.entries.map (·.1)

/-- The number of names. -/
def size (t : Table α) : Nat := t.entries.length

/-- Whether a name has a value. -/
def contains (t : Table α) (name : String) : Bool := (t.get? name).isSome

/-- The table in which a name has the given value. -/
def put (t : Table α) (name : String) (value : α) : Table α where
  entries := putIn name value t.entries
  nodup := by
    rw [map_fst_putIn]
    split
    · exact t.nodup
    · rename_i h
      rw [List.nodup_append]
      exact ⟨t.nodup, by simp, by grind⟩

/-- The table without a name. -/
def erase (t : Table α) (name : String) : Table α where
  entries := t.entries.filter fun e => e.1 ≠ name
  nodup := t.nodup.sublist (List.Sublist.map _ List.filter_sublist)

/-- The table of a list of entries; of two with one name the later value holds. -/
def ofList (es : List (String × α)) : Table α := es.foldl (fun t e => t.put e.1 e.2) empty

instance [DecidableEq α] : DecidableEq (Table α) := fun s t =>
  if h : s.entries = t.entries then
    isTrue (by cases s; cases t; cases h; rfl)
  else isFalse (fun e => h (e ▸ rfl))

/-! ## What a table holds after each operation -/

theorem ext_entries {s t : Table α} (h : s.entries = t.entries) : s = t := by
  cases s; cases t; cases h; rfl

@[simp] theorem entries_empty : (empty : Table α).entries = [] := rfl

@[simp] theorem get?_empty (name : String) : (empty : Table α).get? name = none := rfl

theorem get?_put (t : Table α) (name other : String) (value : α) :
    (t.put name value).get? other = if other = name then some value else t.get? other :=
  lookIn_putIn ..

@[simp] theorem get?_put_self (t : Table α) (name : String) (value : α) :
    (t.put name value).get? name = some value := by simp [get?_put]

theorem mem_entries_iff {t : Table α} {name : String} {value : α} :
    (name, value) ∈ t.entries ↔ t.get? name = some value :=
  (lookIn_eq_some_iff t.nodup).symm

theorem mem_names_iff {t : Table α} {name : String} :
    name ∈ t.names ↔ t.get? name ≠ none := by
  simp only [names, get?, ne_eq, lookIn_eq_none_iff, Classical.not_not]

theorem get?_erase (t : Table α) (name other : String) :
    (t.erase name).get? other = if other = name then none else t.get? other := by
  split
  · rename_i h
    subst h
    refine lookIn_eq_none_iff.2 ?_
    simp [erase]
  · rename_i h
    refine Option.ext fun v => ?_
    rw [← mem_entries_iff, ← mem_entries_iff]
    simp [erase, h]

end Table

end DeviceGrant
