import DeviceGrant.Text.Blank
set_option autoImplicit false

/-! # Scopes

A scope is a set of names. It is kept as the ascending list of its members, by the numbers of
their characters, so that two scopes with the same members are equal and the members come out in
the order in which error messages and answers list them.

A scope parameter of a request, and a scope given as one text in a registration, are read by
`Scope.parse`: the words of the text. -/

namespace DeviceGrant

/-- A set of names, as its ascending list. -/
structure Scope where
  names : List String
  ascending : names.Pairwise (· < ·)
deriving DecidableEq

namespace Scope

/-- An ascending list with a further member. -/
def insertName (s : String) : List String → List String
  | [] => [s]
  | t :: ts => if s < t then s :: t :: ts else if s = t then t :: ts else t :: insertName s ts

theorem mem_insertName {x s : String} {ts : List String} :
    x ∈ insertName s ts ↔ x = s ∨ x ∈ ts := by
  induction ts with
  | nil => simp [insertName]
  | cons t ts ih => grind [insertName]

theorem pairwise_insertName {s : String} {ts : List String} (h : ts.Pairwise (· < ·)) :
    (insertName s ts).Pairwise (· < ·) := by
  induction ts with
  | nil => simp [insertName]
  | cons t ts ih =>
    obtain ⟨ht, hts⟩ := List.pairwise_cons.1 h
    unfold insertName
    split
    · rename_i hst
      refine List.pairwise_cons.2 ⟨fun x hx => ?_, h⟩
      rcases List.mem_cons.1 hx with rfl | hx
      · exact hst
      · exact String.lt_trans hst (ht x hx)
    · split
      · exact h
      · rename_i hst hne
        refine List.pairwise_cons.2 ⟨fun x hx => ?_, ih hts⟩
        rcases mem_insertName.1 hx with rfl | hx
        · rcases Decidable.em (t < x) with h' | h'
          · exact h'
          · exact absurd (String.le_antisymm (String.not_lt.1 h') (String.not_lt.1 hst)) hne
        · exact ht x hx

/-- The scope without members. -/
def empty : Scope := ⟨[], .nil⟩

instance : Inhabited Scope := ⟨empty⟩

/-- A scope with a further member. -/
def insert (s : String) (a : Scope) : Scope := ⟨insertName s a.names, pairwise_insertName a.ascending⟩

/-- The scope of the names of a list. -/
def ofList (names : List String) : Scope := names.foldr insert empty

/-- The scope that a text lists, words apart by blanks. -/
def parse (s : String) : Scope := ofList (Text.words s)

instance : Membership String Scope := ⟨fun a s => s ∈ a.names⟩

instance (s : String) (a : Scope) : Decidable (s ∈ a) := inferInstanceAs (Decidable (s ∈ a.names))

/-- Whether a scope has no members. -/
def isEmpty (a : Scope) : Bool := a.names.isEmpty

/-- The members of one scope that another lacks. -/
def diff (a b : Scope) : Scope :=
  ⟨a.names.filter (· ∉ b), a.ascending.filter _⟩

/-! ## Members -/

theorem mem_iff {s : String} {a : Scope} : s ∈ a ↔ s ∈ a.names := Iff.rfl

@[simp] theorem not_mem_empty (s : String) : s ∉ empty := by simp [mem_iff, empty]

@[simp] theorem mem_insert {x s : String} {a : Scope} : x ∈ a.insert s ↔ x = s ∨ x ∈ a :=
  mem_insertName

@[simp] theorem mem_ofList {x : String} {names : List String} : x ∈ ofList names ↔ x ∈ names := by
  induction names with
  | nil => simp [ofList]
  | cons n ns ih => simp_all [ofList]

@[simp] theorem mem_diff {x : String} {a b : Scope} : x ∈ a.diff b ↔ x ∈ a ∧ x ∉ b := by
  simp [mem_iff, diff]

theorem isEmpty_iff {a : Scope} : a.isEmpty = true ↔ ∀ x, x ∉ a := by
  simp [isEmpty, mem_iff, List.eq_nil_iff_forall_not_mem]

end Scope

end DeviceGrant
