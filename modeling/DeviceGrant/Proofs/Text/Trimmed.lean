import DeviceGrant.Text.Blank
import Mathlib.Data.List.TakeWhile
set_option autoImplicit false

/-! # Trimmed texts

What trimming leaves of a text is said without the trimming: it is the text up to blanks at both
ends, and has none at its own ends. Each text has exactly one such part (`isTrimmed_iff`). -/

namespace DeviceGrant.Text

variable {cs ts blanks : List Char}

/-- Characters between blanks, beginning and ending with none. -/
structure IsTrimmed (cs ts : List Char) : Prop where
  between : ∃ before after, cs = before ++ ts ++ after ∧
    (∀ c ∈ before, isBlank c = true) ∧ ∀ c ∈ after, isBlank c = true
  start : ∀ c ∈ ts.head?, isBlank c = false
  last : ∀ c ∈ ts.getLast?, isBlank c = false

/-- Blanks in front are dropped, and nothing behind them. -/
theorem trimStart_append (hblanks : ∀ c ∈ blanks, isBlank c = true)
    (hstart : ∀ c ∈ ts.head?, isBlank c = false) : trimStart (blanks ++ ts) = ts := by
  rw [trimStart, List.dropWhile_append_of_pos hblanks]
  cases ts with
  | nil => rfl
  | cons c ts => exact List.dropWhile_cons_of_neg (by simp [hstart c rfl])

theorem trimEnd_append (hblanks : ∀ c ∈ blanks, isBlank c = true)
    (hlast : ∀ c ∈ ts.getLast?, isBlank c = false) : trimEnd (ts ++ blanks) = ts := by
  have hreverse : trimStart (blanks.reverse ++ ts.reverse) = ts.reverse :=
    trimStart_append (by simpa using hblanks) (by simpa using hlast)
  rw [trimStart, ← List.reverse_append] at hreverse
  rw [trimEnd, hreverse, List.reverse_reverse]

theorem exists_eq_append_trimStart (cs : List Char) :
    ∃ before, cs = before ++ trimStart cs ∧ (∀ c ∈ before, isBlank c = true) ∧
      ∀ c ∈ (trimStart cs).head?, isBlank c = false := by
  refine ⟨cs.takeWhile isBlank, (List.takeWhile_append_dropWhile ..).symm,
    fun c hc => List.mem_takeWhile_imp hc, fun c hc => ?_⟩
  rw [trimStart, ← List.find?_not_eq_head?_dropWhile] at hc
  simpa using List.find?_some hc

theorem exists_eq_trimEnd_append (cs : List Char) :
    ∃ after, cs = trimEnd cs ++ after ∧ (∀ c ∈ after, isBlank c = true) ∧
      ∀ c ∈ (trimEnd cs).getLast?, isBlank c = false := by
  obtain ⟨before, hcs, hblanks, hstart⟩ := exists_eq_append_trimStart cs.reverse
  refine ⟨before.reverse, ?_, by simpa using hblanks, ?_⟩
  · rw [trimEnd, ← List.reverse_append, ← trimStart, ← hcs, List.reverse_reverse]
  · rw [trimEnd, List.getLast?_reverse]
    exact hstart

/-- Trimming leaves the one part of a text that lies between its blanks. -/
theorem isTrimmed_iff : IsTrimmed cs ts ↔ ts = trimChars cs := by
  constructor
  · intro h
    obtain ⟨before, after, rfl, hbefore, hafter⟩ := h.between
    cases ts with
    | nil =>
      -- Only blanks: those behind are dropped from the front as well.
      have hall : ∀ c ∈ before ++ [] ++ after, isBlank c = true := by
        simpa [or_imp, forall_and] using ⟨hbefore, hafter⟩
      rw [trimChars, trimStart, List.dropWhile_eq_nil_iff.2 hall]
      rfl
    | cons c ts =>
      have hfront : trimStart (before ++ (c :: ts ++ after)) = c :: ts ++ after :=
        trimStart_append hbefore (by simpa using h.start c rfl)
      rw [trimChars, List.append_assoc, hfront, trimEnd_append hafter h.last]
  · rintro rfl
    obtain ⟨before, hcs, hbefore, hstart⟩ := exists_eq_append_trimStart cs
    obtain ⟨after, htrimmed, hafter, hlast⟩ := exists_eq_trimEnd_append (trimStart cs)
    refine ⟨⟨before, after, ?_, hbefore, hafter⟩, fun c hc => hstart c ?_, hlast⟩
    · rw [trimChars, List.append_assoc, ← htrimmed, ← hcs]
    · -- What is left at the front was there before the end was trimmed.
      rw [htrimmed, List.head?_append]
      rw [trimChars, Option.mem_def] at hc
      rw [hc]
      rfl

end DeviceGrant.Text
