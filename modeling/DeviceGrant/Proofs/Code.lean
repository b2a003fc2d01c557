import DeviceGrant.Proofs.Mask
import Mathlib
set_option autoImplicit false

/-! # The space of user codes

A user code of `n` symbols is a text of `n + 1` characters with a hyphen behind its first half and
symbols everywhere else (`IsUserCode`). Each symbol stands for one choice (`symbol_injective`,
`range_symbol`). Where the hyphen stands depends on the length alone, so nothing is lost with it and
it can be taken out again (`hyphenate_injective`, `isUserCode_iff`). So every text of this form is
the code of exactly one sequence of choices (`userCode_bijOn`). -/

namespace DeviceGrant.Code

variable {c : Char} {symbols : List Char} {code : String} {n : Nat}

/-! ## Symbols -/

/-- A capital letter or a digit, except those that are mistaken for each other. -/
def IsSymbol (c : Char) : Prop :=
  (c.isUpper = true ∨ c.isDigit = true) ∧ c ∉ ['O', '0', 'I', '1']

instance (c : Char) : Decidable (IsSymbol c) := inferInstanceAs (Decidable (_ ∧ _))

theorem IsSymbol.toNat_lt (h : IsSymbol c) : c.toNat < 128 := by
  have hval : c.val.toNat = c.toNat := rfl
  rcases h.1 with hletter | hdigit
  · simp [Char.isUpper, UInt32.le_iff_toNat_le] at hletter
    omega
  · simp [Char.isDigit, UInt32.le_iff_toNat_le] at hdigit
    omega

theorem mem_alphabet_iff : c ∈ alphabet ↔ IsSymbol c := by
  have hsymbols : alphabet.all IsSymbol = true := by decide +kernel
  have hcovered : ∀ k < 128, IsSymbol (Char.ofNat k) → Char.ofNat k ∈ alphabet := by
    decide +kernel
  constructor
  · intro h
    simpa using List.all_eq_true.1 hsymbols c h
  · intro h
    have hmem := hcovered c.toNat h.toNat_lt
    rw [Char.ofNat_toNat] at hmem
    exact hmem h

theorem symbol_eq_getElem (choice : Fin 32) : symbol choice = alphabet[choice] := by
  revert choice
  decide

theorem symbol_injective : Function.Injective symbol := by
  intro a b h
  have hnodup : alphabet.Nodup := by decide
  rw [symbol_eq_getElem, symbol_eq_getElem] at h
  exact Fin.ext ((hnodup.getElem_inj_iff).1 h)

/-- Every symbol has its choice. -/
theorem range_symbol : Set.range symbol = {c | IsSymbol c} := by
  ext c
  rw [Set.mem_ofPred_eq, ← mem_alphabet_iff, List.mem_iff_getElem]
  constructor
  · rintro ⟨choice, rfl⟩
    exact ⟨choice, choice.isLt, (symbol_eq_getElem choice).symm⟩
  · rintro ⟨i, hi, rfl⟩
    exact ⟨⟨i, hi⟩, symbol_eq_getElem ⟨i, hi⟩⟩

/-! ## The hyphen -/

theorem insertIdx_length_append (before after : List Char) (c : Char) :
    (before ++ after).insertIdx before.length c = before ++ c :: after := by
  induction before with
  | nil => rfl
  | cons d before ih => rw [List.cons_append, List.length_cons, List.insertIdx_succ_cons, ih]; rfl

theorem hyphenate_eq_insertIdx (symbols : List Char) :
    hyphenate symbols = symbols.insertIdx (symbols.length / 2) '-' := by
  have hhalf : (symbols.take (symbols.length / 2)).length = symbols.length / 2 :=
    List.length_take_of_le (Nat.div_le_self ..)
  have hinsert := insertIdx_length_append (symbols.take (symbols.length / 2))
    (symbols.drop (symbols.length / 2)) '-'
  rw [List.take_append_drop, hhalf] at hinsert
  rw [hyphenate, hinsert]

theorem length_hyphenate (symbols : List Char) :
    (hyphenate symbols).length = symbols.length + 1 := by
  rw [hyphenate_eq_insertIdx, List.length_insertIdx_of_le_length (Nat.div_le_self ..)]

/-- Symbols of one length have their hyphen at one place, so it can be taken out again. -/
theorem hyphenate_injective : Function.Injective hyphenate := by
  intro symbols others h
  have hlength : symbols.length = others.length := by
    simpa [length_hyphenate] using congrArg List.length h
  rw [hyphenate_eq_insertIdx, hyphenate_eq_insertIdx, hlength] at h
  exact List.insertIdx_injective _ _ h

/-! ## User codes -/

/-- A text of `n` symbols and a hyphen behind the first half of them. -/
structure IsUserCode (n : Nat) (code : String) : Prop where
  length : code.toList.length = n + 1
  hyphen : code.toList[n / 2]? = some '-'
  symbol : ∀ i c, i ≠ n / 2 → code.toList[i]? = some c → IsSymbol c

theorem isUserCode_iff : IsUserCode n code ↔ ∃ symbols,
    symbols.length = n ∧ (∀ c ∈ symbols, IsSymbol c) ∧ hyphenate symbols = code.toList := by
  constructor
  · intro h
    have hhalf : n / 2 < code.toList.length := by
      rw [h.length]
      omega
    have hlength : (code.toList.eraseIdx (n / 2)).length = n := by
      rw [List.length_eraseIdx_of_lt hhalf, h.length, Nat.add_sub_cancel]
    have hhyphen : code.toList[n / 2] = '-' := by
      simpa [List.getElem?_eq_getElem hhalf] using h.hyphen
    refine ⟨code.toList.eraseIdx (n / 2), hlength, ?_, ?_⟩
    · intro c hc
      obtain ⟨i, hne, hi⟩ := List.mem_eraseIdx_iff_getElem?.1 hc
      exact h.symbol i c hne hi
    · rw [hyphenate_eq_insertIdx, hlength, ← hhyphen, List.insertIdx_eraseIdx_getElem hhalf]
  · rintro ⟨symbols, rfl, hsymbols, hcode⟩
    rw [hyphenate_eq_insertIdx] at hcode
    refine ⟨?_, ?_, ?_⟩
    · rw [← hcode, List.length_insertIdx_of_le_length (Nat.div_le_self ..)]
    · rw [← hcode, List.getElem?_insertIdx_self, if_pos (Nat.div_le_self ..)]
    · intro i c hne hi
      have hmem : c ∈ code.toList.eraseIdx (symbols.length / 2) :=
        List.mem_eraseIdx_iff_getElem?.2 ⟨i, hne, hi⟩
      rw [← hcode, List.eraseIdx_insertIdx_self] at hmem
      exact hsymbols c hmem

/-- The texts of this form are those that choices give. -/
theorem isUserCode_iff_exists_choices :
    IsUserCode n code ↔ ∃ choices, choices.length = n ∧ userCode choices = code := by
  rw [isUserCode_iff]
  constructor
  · rintro ⟨symbols, hlength, hsymbols, hcode⟩
    have hrange : symbols ∈ Set.range (List.map Code.symbol) := by
      rw [Set.range_list_map, range_symbol]
      exact hsymbols
    obtain ⟨choices, rfl⟩ := hrange
    exact ⟨choices, by simpa using hlength, by rw [userCode, hcode, String.ofList_toList]⟩
  · rintro ⟨choices, rfl, rfl⟩
    refine ⟨choices.map Code.symbol, by simp, ?_, by rw [userCode, String.toList_ofList]⟩
    intro c hc
    obtain ⟨choice, _, rfl⟩ := List.mem_map.1 hc
    exact range_symbol.subset ⟨choice, rfl⟩

theorem userCode_injective : Function.Injective userCode := by
  intro choices others h
  have hsymbols := hyphenate_injective (String.ofList_injective h)
  exact List.map_injective_iff.2 symbol_injective hsymbols

/-- No symbol is a hyphen, so the hyphen of a user code is its only one. -/
theorem IsUserCode.hyphen_iff (h : IsUserCode n code) (i : Nat) :
    code.toList[i]? = some '-' ↔ i = n / 2 := by
  constructor
  · intro hi
    by_contra hne
    exact absurd (h.symbol i '-' hne hi) (by decide)
  · rintro rfl
    exact h.hyphen

/-- What the mask of a user code shows, in terms of the code. -/
theorem mask_userCode (choices : List (Fin 32)) :
    Mask.userCode (userCode choices) =
      String.ofList ((userCode choices).toList.take (choices.length / 2) ++
        '-' :: List.replicate (choices.length - choices.length / 2) '*') := by
  have htake : (userCode choices).toList.take (choices.length / 2) =
      (choices.map Code.symbol).take (choices.length / 2) := by
    rw [userCode, String.toList_ofList, hyphenate_eq_insertIdx, List.length_map,
      List.take_insertIdx_eq_take_of_le _ _ _ _ le_rfl]
  rw [Mask.userCode_userCode, htake]

/-- Choices of one length and the texts of the form of a user code determine each other, so there
are as many of these texts as there are choices. The hyphen of a code is its only one, and the mask
shows what is in front of it, the hyphen and a star for each symbol behind it. -/
theorem userCode_bijOn (n : Nat) :
    Set.BijOn userCode {choices | choices.length = n} {code | IsUserCode n code} ∧
    {code | IsUserCode n code}.ncard = 32 ^ n ∧
    ∀ choices : List (Fin 32),
      let code := userCode choices
      let half := choices.length / 2
      (∀ i, code.toList[i]? = some '-' ↔ i = half) ∧
      Mask.userCode code = String.ofList (code.toList.take half ++
        '-' :: List.replicate (choices.length - half) '*') := by
  have hbij : Set.BijOn userCode {choices | choices.length = n} {code | IsUserCode n code} := by
    refine ⟨?_, userCode_injective.injOn, ?_⟩
    · intro choices hlength
      exact isUserCode_iff_exists_choices.2 ⟨choices, hlength, rfl⟩
    · intro code hcode
      exact isUserCode_iff_exists_choices.1 hcode
  refine ⟨hbij, ?_, ?_⟩
  · calc {code | IsUserCode n code}.ncard
      _ = {choices : List (Fin 32) | choices.length = n}.ncard := hbij.ncard_eq.symm
      _ = Nat.card (List.Vector (Fin 32) n) := (Nat.card_coe_set_eq _).symm
      _ = 32 ^ n := by rw [Nat.card_eq_fintype_card, card_vector, Fintype.card_fin]
  · intro choices code half
    have hcode : IsUserCode choices.length code :=
      isUserCode_iff_exists_choices.2 ⟨choices, rfl, rfl⟩
    exact ⟨hcode.hyphen_iff, mask_userCode choices⟩

end DeviceGrant.Code
