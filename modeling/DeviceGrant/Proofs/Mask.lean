import DeviceGrant.Code
import DeviceGrant.Mask
import Mathlib.Data.List.TakeWhile
set_option autoImplicit false

/-! # What a mask shows

A mask is a function of less than its text. A masked id is the same for any two long ids that agree
in their first and last four characters (`AlikeIds.mask_eq`). No symbol of a user code is a hyphen,
so the mask of one shows its first half and the number of the other symbols (`userCode_userCode`),
and it is the same for any two user codes of one length with the same first half
(`AlikeUserCodes.mask_eq`). -/

namespace DeviceGrant

namespace Mask

/-! ## Ids -/

/-- Two ids of more than eight characters with the same first and the same last four ones. Their
lengths may differ. -/
structure AlikeIds (a b : String) : Prop where
  long : 8 < a.toList.length ∧ 8 < b.toList.length
  first : a.toList.take 4 = b.toList.take 4
  last : a.toList.drop (a.toList.length - 4) = b.toList.drop (b.toList.length - 4)

instance (a b : String) : Decidable (AlikeIds a b) :=
  decidable_of_iff
    ((8 < a.toList.length ∧ 8 < b.toList.length) ∧ a.toList.take 4 = b.toList.take 4 ∧
      a.toList.drop (a.toList.length - 4) = b.toList.drop (b.toList.length - 4))
    ⟨fun ⟨long, first, last⟩ => ⟨long, first, last⟩, fun h => ⟨h.long, h.first, h.last⟩⟩

theorem AlikeIds.mask_eq {a b : String} (h : AlikeIds a b) : Mask.id a = Mask.id b := by
  rw [Mask.id, Mask.id, if_neg (Nat.not_le.2 h.long.1), if_neg (Nat.not_le.2 h.long.2), idChars,
    idChars, h.first, h.last]

/-! ## User codes -/

theorem symbol_ne_hyphen (choice : Fin 32) : Code.symbol choice ≠ '-' := by
  revert choice
  decide

/-- A code with a hyphen is shown up to it, with a star for each character behind it. -/
theorem userCodeChars_hyphen {before after : List Char} (h : ∀ c ∈ before, c ≠ '-') :
    userCodeChars (before ++ '-' :: after) =
      before ++ '-' :: List.replicate after.length '*' := by
  have hhead : (before ++ '-' :: after).takeWhile (· ≠ '-') = before := by
    rw [List.takeWhile_append_of_pos (by simpa using h)]
    simp
  rw [userCodeChars, hhead, if_pos (by simp)]
  congr 3
  simp

/-- The mask of a user code shows the first half of its symbols, the hyphen and a star for each
further symbol. -/
theorem userCode_userCode (choices : List (Fin 32)) :
    userCode (Code.userCode choices) =
      String.ofList ((choices.map Code.symbol).take (choices.length / 2) ++
        '-' :: List.replicate (choices.length - choices.length / 2) '*') := by
  have hbefore : ∀ c ∈ (choices.map Code.symbol).take (choices.length / 2), c ≠ '-' := by
    intro c hc
    obtain ⟨choice, _, rfl⟩ := List.mem_map.1 (List.mem_of_mem_take hc)
    exact symbol_ne_hyphen choice
  have hchars : (Code.userCode choices).toList =
      (choices.map Code.symbol).take (choices.length / 2) ++
        '-' :: (choices.map Code.symbol).drop (choices.length / 2) := by
    simp [Code.userCode, Code.hyphenate]
  rw [userCode, hchars, userCodeChars_hyphen hbefore]
  simp

/-- Two user codes of one length with the same first half. -/
def AlikeUserCodes (u v : String) : Prop :=
  ∃ choices others : List (Fin 32), u = Code.userCode choices ∧ v = Code.userCode others ∧
    choices.length = others.length ∧
    choices.take (choices.length / 2) = others.take (others.length / 2)

theorem AlikeUserCodes.mask_eq {u v : String} (h : AlikeUserCodes u v) :
    userCode u = userCode v := by
  obtain ⟨choices, others, rfl, rfl, hlength, hfirst⟩ := h
  rw [userCode_userCode, userCode_userCode, ← List.map_take, ← List.map_take, hfirst, hlength]

end Mask

end DeviceGrant
