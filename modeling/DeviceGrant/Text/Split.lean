set_option autoImplicit false

/-! # Splitting at a character

Addresses, headers and lists of names are cut at single characters: at every occurrence, at the
first one or at the last one. -/

namespace DeviceGrant.Text

/-- The pieces between the occurrences of a character; at least one piece. -/
def splitOn (sep : Char) : List Char → List (List Char)
  | [] => [[]]
  | c :: cs =>
    if c = sep then [] :: splitOn sep cs
    else match splitOn sep cs with
      | [] => [[c]]
      | p :: ps => (c :: p) :: ps

/-- What stands before the first occurrence of a character and what stands after it, if the
character occurs. -/
def cutFirst? (sep : Char) : List Char → Option (List Char × List Char)
  | [] => none
  | c :: cs =>
    if c = sep then some ([], cs) else (cutFirst? sep cs).map fun (a, b) => (c :: a, b)

/-- What stands before the last occurrence of a character and what stands after it, if the
character occurs. -/
def cutLast? (sep : Char) (cs : List Char) : Option (List Char × List Char) :=
  (cutFirst? sep cs.reverse).map fun (a, b) => (b.reverse, a.reverse)

/-- What stands before the first occurrence of a character, or everything. -/
def beforeFirst (sep : Char) (cs : List Char) : List Char := cs.takeWhile (· ≠ sep)

/-- What stands after the last occurrence of a character, or everything. -/
def afterLast (sep : Char) (cs : List Char) : List Char :=
  ((cs.reverse).takeWhile (· ≠ sep)).reverse

theorem eq_of_cutFirst? {sep : Char} {cs a b : List Char} (h : cutFirst? sep cs = some (a, b)) :
    cs = a ++ sep :: b ∧ sep ∉ a := by
  induction cs generalizing a with
  | nil => simp [cutFirst?] at h
  | cons c cs ih =>
    unfold cutFirst? at h
    split at h
    · rename_i hc
      simp only [Option.some.injEq, Prod.mk.injEq] at h
      obtain ⟨rfl, rfl⟩ := h
      simp [hc]
    · rename_i hc
      obtain ⟨⟨x, y⟩, hxy, he⟩ := Option.map_eq_some_iff.1 h
      simp only [Prod.mk.injEq] at he
      obtain ⟨rfl, rfl⟩ := he
      obtain ⟨rfl, hx⟩ := ih hxy
      simp [hx, Ne.symm hc]

/-- A text without the slashes at its end. -/
def withoutEndSlashes (s : String) : String :=
  String.ofList ((s.toList.reverse.dropWhile (· = '/')).reverse)

/-- A text split at a character, as texts. -/
def splitText (sep : Char) (s : String) : List String := (splitOn sep s.toList).map String.ofList

end DeviceGrant.Text
