import DeviceGrant.Proofs.Store.Keys
import Mathlib.Data.List.TakeDrop
import Mathlib.Data.List.TakeWhile
set_option autoImplicit false

/-! # Patterns that fit their own text

A character of a pattern is a part of its own unless it is a star or opens a class that is closed
later. A pattern of such characters only is `OneByOne`: it has as many parts as characters, and each
part accepts the character that it is made of. So it fits its own text, and in a longer pattern the
parts behind it meet what stands behind that text (`matchParts_oneByOne`). Question marks and
brackets that are never closed do no harm. -/

namespace DeviceGrant.Text.Glob

variable {c d : Char} {cs rest : List Char} {ps : List GlobPart}

/-! ## Classes that are never closed -/

/-- The first character of a class never closes it. -/
theorem splitClass?_eq_none_iff : splitClass? cs = none ↔ ']' ∉ cs.tail := by
  cases cs with
  | nil => simp [splitClass?]
  | cons c cs =>
    have hopen : cs.dropWhile (· ≠ ']') = [] ↔ ']' ∉ cs := by
      rw [List.dropWhile_eq_nil_iff]
      simp only [decide_eq_true_eq]
      exact ⟨fun h hmem => h _ hmem rfl, fun h d hd => ne_of_mem_of_not_mem hd h⟩
    rw [splitClass?, List.span_eq_takeWhile_dropWhile, List.tail_cons, ← hopen]
    cases cs.dropWhile (· ≠ ']') <;> simp

theorem splitClass?_append (h : splitClass? cs = none) (hrest : ']' ∉ rest) :
    splitClass? (cs ++ rest) = none := by
  rw [splitClass?_eq_none_iff] at h ⊢
  cases cs with
  | nil => exact fun hmem => hrest (List.mem_of_mem_tail hmem)
  | cons c cs => simpa [hrest] using h

/-- A class that is not closed stays open when there is no bracket behind it. -/
theorem readClass?_append (h : readClass? cs = none) (hrest : ']' ∉ rest) :
    readClass? (cs ++ rest) = none := by
  have hplain : ∀ {cs : List Char}, splitClass? cs = none → readClass? cs = none := by
    intro cs hcs
    unfold readClass?
    split
    · next ds =>
      -- Without its exclamation mark the class has fewer characters to be closed by.
      rw [splitClass?_eq_none_iff, List.tail_cons] at hcs
      rw [Option.map_eq_none_iff, splitClass?_eq_none_iff]
      exact fun hmem => hcs (List.mem_of_mem_tail hmem)
    · rw [hcs]
      rfl
  cases cs with
  | nil =>
    have hnil : splitClass? [] = none := rfl
    exact hplain (splitClass?_append hnil hrest)
  | cons c cs =>
    by_cases hnegated : c = '!'
    · subst hnegated
      have hcs : splitClass? cs = none := by simpa [readClass?] using h
      simpa [readClass?] using splitClass?_append hcs hrest
    · have hcs : splitClass? (c :: cs) = none := by simpa [readClass?, hnegated] using h
      exact hplain (splitClass?_append hcs hrest)

/-! ## One part for each character -/

/-- Every character of a pattern is a part of its own: there is no star and no class. -/
def OneByOne : List Char → Prop
  | [] => True
  | c :: cs => c ≠ '*' ∧ (c = '[' → readClass? cs = none) ∧ OneByOne cs

instance decidableOneByOne : (cs : List Char) → Decidable (OneByOne cs)
  | [] => .isTrue trivial
  | c :: cs =>
    have := decidableOneByOne cs
    inferInstanceAs (Decidable (c ≠ '*' ∧ (c = '[' → readClass? cs = none) ∧ OneByOne cs))

/-- The part that such a character makes. -/
def single (c : Char) : GlobPart := if c = '?' then .anyOne else .literal c

theorem single_ne_anything (c : Char) : single c ≠ .anything := by
  unfold single
  split <;> nofun

/-- The part that a character makes accepts this character. -/
theorem accepts_single (c : Char) : GlobPart.accepts c (single c) = true := by
  unfold single
  split
  · rfl
  · simp [GlobPart.accepts]

theorem partsUpTo_oneByOne (fuel : Nat) (h : OneByOne cs) (hrest : ']' ∉ rest)
    (hfuel : cs.length ≤ fuel) :
    partsUpTo fuel (cs ++ rest) = cs.map single ++ partsUpTo (fuel - cs.length) rest := by
  induction cs generalizing fuel with
  | nil => simp
  | cons c cs ih =>
    obtain ⟨fuel, rfl⟩ : ∃ n, fuel = n + 1 := ⟨fuel - 1, by simp at hfuel; omega⟩
    obtain ⟨hstar, hclass, hcs⟩ := h
    have hlater := ih fuel hcs (by simpa using hfuel)
    have hfuel' : fuel + 1 - (c :: cs).length = fuel - cs.length := by simp
    rw [List.cons_append, partsUpTo, if_neg hstar, List.map_cons, List.cons_append, single, hfuel',
      ← hlater]
    by_cases hmark : c = '?'
    · rw [if_pos hmark, if_pos hmark]
    · rw [if_neg hmark, if_neg hmark]
      by_cases hbracket : c = '['
      · rw [if_pos hbracket, readClass?_append (hclass hbracket) hrest]
      · rw [if_neg hbracket]

/-- The parts behind such a pattern meet what stands behind its text. -/
theorem matchParts_oneByOne (cs ds : List Char) (ps : List GlobPart) :
    matchParts (cs.map single ++ ps) (cs ++ ds) = matchParts ps ds := by
  induction cs with
  | nil => rfl
  | cons c cs ih =>
    rw [List.map_cons, List.cons_append, List.cons_append, matchParts, accepts_single, ih,
      Bool.true_and]
    exact single_ne_anything c

/-- Behind the text of such a pattern, literal characters and a star fit what starts with them. -/
theorem globMatches_oneByOne_iff {front start : String} (hfront : OneByOne front.toList)
    (hstart : ∀ c ∈ start.toList, IsLiteral c) (hclose : ']' ∉ start.toList) (tail : String) :
    globMatches (front ++ start ++ "*") (front ++ tail) = true ↔
      start.toList <+: tail.toList := by
  have hrest : ']' ∉ start.toList ++ ['*'] := by simpa using hclose
  have hparts : parts (front ++ start ++ "*").toList =
      front.toList.map single ++ (start.toList.map .literal ++ [.anything]) := by
    have hlist : (front ++ start ++ "*").toList =
        front.toList ++ (start.toList ++ ['*']) := by simp
    rw [parts, hlist, partsUpTo_oneByOne _ hfront hrest (by simp),
      partsUpTo_literals _ _ _ hstart (by simp)]
    simp [partsUpTo]
  rw [globMatches, hparts, String.toList_append, matchParts_oneByOne, matchParts_literals]

end DeviceGrant.Text.Glob

/-! ## Prefixes -/

namespace DeviceGrant.SharedStore

open Text.Glob (OneByOne)

variable {s : SharedStore}

/-- Behind a prefix that fits its own text, the pattern of a sweep asks for the mark of device
codes. -/
theorem finds_append_iff (h : OneByOne s.keyPrefix.toList) (tail : String) :
    s.Finds (s.keyPrefix ++ tail) ↔ ":device_code:".toList <+: tail.toList := by
  have hmark : ∀ c ∈ ":device_code:".toList, Text.IsLiteral c := by
    simp [Text.IsLiteral]
  exact Text.Glob.globMatches_oneByOne_iff h hmark (by decide) tail

theorem finds_deviceKey_of_oneByOne (h : OneByOne s.keyPrefix.toList) (d : String) :
    s.Finds (s.deviceKey d) := by
  have hkey : s.deviceKey d = s.keyPrefix ++ (":device_code:" ++ d) := by
    rw [deviceKey, deviceKeyPrefix, String.append_assoc]
  rw [hkey, finds_append_iff h, String.toList_append]
  exact List.prefix_append ..

theorem not_finds_userKey_of_oneByOne (h : OneByOne s.keyPrefix.toList) (u : String) :
    ¬ s.Finds (s.userKey u) := by
  have hkey : s.userKey u = s.keyPrefix ++ (":user_code:" ++ u) := by
    rw [userKey, userKeyPrefix, String.append_assoc]
  rw [hkey, finds_append_iff h, String.toList_append]
  rintro ⟨rest, hrest⟩
  simp at hrest

end DeviceGrant.SharedStore
