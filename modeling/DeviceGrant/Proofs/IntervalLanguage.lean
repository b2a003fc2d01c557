import DeviceGrant.Proofs.Json.Token
import DeviceGrant.Proofs.Override
set_option autoImplicit false

/-! # The language of intervals

Which values stand for an interval is a language that is easily said: the whole numbers above zero,
and the texts that are decimal digits between blanks and denote such a number. `positiveInt` gives
the number for exactly these and nothing for every other value, as long as no text is too long to
be converted (`positiveInt_eq_some_iff`, `positiveInt_eq_none_iff`).

The decimal form of a number is such a text, and remains one of the same number with zeros in front
of it and blanks around it (`positiveInt_toDigits`). -/

namespace DeviceGrant.Override

variable {raw : Value} {s : String} {c : Char} {ds before after : List Char}

/-! ## Values that stand for an interval -/

/-- A whole number above zero stands for itself, and a numeral for the number that its digits
denote. -/
def StandsFor (raw : Value) (n : Int) : Prop :=
  0 < n ∧ (raw = .int n ∨ ∃ s ds, raw = .text s ∧ IsNumeral s ds ∧ (decimalValue ds : Int) = n)

/-- Without its blanks, a text has no more characters than can be converted. -/
def IsShort (raw : Value) : Prop := ∀ s, raw = .text s → (Text.trim s).length ≤ maxDigits

theorem denotes_iff_standsFor {n : Int} : Denotes raw n ↔ StandsFor raw n := by
  constructor
  · intro h
    refine ⟨h.pos, ?_⟩
    cases h with
    | number pos => exact .inl rfl
    | numeral isNumeral pos => exact .inr ⟨_, _, rfl, isNumeral, rfl⟩
  · rintro ⟨hpos, rfl | ⟨s, ds, rfl, hnumeral, rfl⟩⟩
    · exact .number hpos
    · exact .numeral hnumeral (by omega)

/-- The digits of a numeral are all that is left of it without its blanks. -/
theorem IsNumeral.length_le (h : IsNumeral s ds) (hshort : IsShort (.text s)) :
    ds.length ≤ maxDigits := by
  have htrim := hshort s rfl
  rwa [Text.trim, String.length_ofList, ← (isNumeral_iff.1 h).1] at htrim

theorem IsShort.not_isLongNumeral (h : IsShort raw) : ¬ IsLongNumeral raw := by
  rintro ⟨hnumeral, hlong⟩
  have hlength := hnumeral.length_le h
  omega

/-! ## Reading a value -/

theorem positiveInt_eq_some_iff (h : IsShort raw) {n : Int} :
    positiveInt raw = .ok (some n) ↔ StandsFor raw n := by
  rw [positiveInt_some_iff, denotes_iff_standsFor, and_iff_left h.not_isLongNumeral]

/-- Every value that stands for no interval is passed over. -/
theorem positiveInt_eq_none_iff (h : IsShort raw) :
    positiveInt raw = .ok none ↔ ¬ ∃ n, StandsFor raw n := by
  rw [positiveInt_meets.none_iff, and_iff_left h.not_isLongNumeral, not_exists]
  simp only [denotes_iff_standsFor]

/-- A text with anything but digits between its blanks is passed over, whatever its length. -/
theorem positiveInt_of_not_isDigit (hc : c ∈ (Text.trim s).toList) (hdigit : c.isDigit = false) :
    positiveInt (.text s) = .ok none := by
  refine positiveInt_of_no_numeral fun ds hds => ?_
  rw [Text.trim, String.toList_ofList, ← (isNumeral_iff.1 hds).1] at hc
  rw [hds.digits c hc] at hdigit
  cases hdigit

/-! ## Decimal forms -/

/-- Zeros in front do not change the number that digits denote. -/
theorem decimalValue_zeros (zeros : Nat) (ds : List Char) :
    decimalValue (List.replicate zeros '0' ++ ds) = decimalValue ds := by
  simp only [← digitsValue_eq_decimalValue]
  induction zeros with
  | zero => rfl
  | succ zeros ih =>
    rw [List.replicate_succ, List.cons_append, ← ih]
    rfl

theorem decimalValue_toDigits (n : Nat) : decimalValue (Nat.toDigits 10 n) = n := by
  rw [← digitsValue_eq_decimalValue, Text.digitsValue_toDigits]

/-- Digits between blanks are a numeral. -/
theorem isNumeral_between (hne : ds ≠ []) (hdigits : ∀ c ∈ ds, c.isDigit = true)
    (hbefore : ∀ c ∈ before, Text.isBlank c = true) (hafter : ∀ c ∈ after, Text.isBlank c = true) :
    IsNumeral (String.ofList (before ++ ds ++ after)) ds where
  trimmed := by
    rw [String.toList_ofList]
    refine ⟨⟨before, after, rfl, hbefore, hafter⟩, ?_, ?_⟩
    · intro c hc
      exact isBlank_of_isDigit (hdigits c (List.mem_of_mem_head? hc))
    · intro c hc
      exact isBlank_of_isDigit (hdigits c (List.mem_of_mem_getLast? hc))
  nonempty := hne
  digits := hdigits

theorem positiveInt_toDigits {n zeros : Nat} (hpos : 0 < n)
    (hlength : zeros + (Nat.toDigits 10 n).length ≤ maxDigits)
    (hbefore : ∀ c ∈ before, Text.isBlank c = true) (hafter : ∀ c ∈ after, Text.isBlank c = true) :
    positiveInt (.text (String.ofList
      (before ++ (List.replicate zeros '0' ++ Nat.toDigits 10 n) ++ after))) = .ok (some n) := by
  have hne : List.replicate zeros '0' ++ Nat.toDigits 10 n ≠ [] := by
    simp [Nat.toDigits_ne_nil]
  have hdigits : ∀ c ∈ List.replicate zeros '0' ++ Nat.toDigits 10 n, c.isDigit = true := by
    intro c hc
    rcases List.mem_append.1 hc with hc | hc
    · rw [List.eq_of_mem_replicate hc]
      rfl
    · exact Json.isDigit_of_mem_toDigits hc
  have hshort : ¬ maxDigits < (List.replicate zeros '0' ++ Nat.toDigits 10 n).length := by
    rw [List.length_append, List.length_replicate]
    omega
  rw [positiveInt_of_isNumeral (isNumeral_between hne hdigits hbefore hafter), if_neg hshort,
    decimalValue_zeros, decimalValue_toDigits, positive?, if_pos (by omega)]

/-! ## The language -/

/-- The reader of intervals accepts exactly its language. Unless a value is a text of more than 4300
characters without its blanks, it gives `n` exactly if `n` is above zero and the value is the whole
number `n`, or a text that is digits between blanks and denotes `n`; and it gives nothing, and does
not fail, for every other value. In particular it gives nothing for a text with anything but digits
between its blanks, and it gives `n` back for the decimal form of `n` with zeros in front and blanks
around it. -/
theorem positiveInt_accepts_language (raw : Value) :
    (IsShort raw →
      (∀ n, positiveInt raw = .ok (some n) ↔ StandsFor raw n) ∧
      (positiveInt raw = .ok none ↔ ¬ ∃ n, StandsFor raw n)) ∧
    (∀ s, raw = .text s → (∃ c ∈ (Text.trim s).toList, c.isDigit = false) →
      positiveInt raw = .ok none) ∧
    ∀ (n zeros : Nat) (before after : List Char),
      raw = .text (String.ofList
        (before ++ (List.replicate zeros '0' ++ Nat.toDigits 10 n) ++ after)) →
      0 < n → zeros + (Nat.toDigits 10 n).length ≤ maxDigits →
      (∀ c ∈ before, Text.isBlank c = true) → (∀ c ∈ after, Text.isBlank c = true) →
        positiveInt raw = .ok (some n) := by
  refine ⟨?_, ?_, ?_⟩
  · intro hshort
    exact ⟨fun n => positiveInt_eq_some_iff hshort, positiveInt_eq_none_iff hshort⟩
  · rintro s rfl ⟨c, hc, hdigit⟩
    exact positiveInt_of_not_isDigit hc hdigit
  · rintro n zeros before after rfl hpos hlength hbefore hafter
    exact positiveInt_toDigits hpos hlength hbefore hafter

/-- A numeral with zeros in front, between a narrow no-break space and a tab, and an underscore that
is no part of a numeral. -/
theorem positiveInt_accepts_language_padded :
    IsShort (.text "\u202f00425\t") ∧ StandsFor (.text "\u202f00425\t") 425 ∧
    positiveInt (.text "\u202f00425\t") = .ok (some 425) ∧
    '_' ∈ (Text.trim "4_2").toList ∧ positiveInt (.text "4_2") = .ok none := by
  have hshort : IsShort (.text "\u202f00425\t") := by
    rintro s ⟨⟩
    decide
  have hdigits : Nat.toDigits 10 425 = ['4', '2', '5'] := by decide
  have hpadded : Value.text "\u202f00425\t" = .text (String.ofList
      (['\u202f'] ++ (List.replicate 2 '0' ++ Nat.toDigits 10 425) ++ ['\t'])) := by
    rw [hdigits, Value.text.injEq]
    decide
  have hread : positiveInt (.text "\u202f00425\t") = .ok (some 425) :=
    (positiveInt_accepts_language _).2.2 425 2 ['\u202f'] ['\t'] hpadded (by decide)
      (by rw [hdigits]; decide) (by simp [Text.isBlank]) (by simp [Text.isBlank])
  have hmem : '_' ∈ (Text.trim "4_2").toList := by decide
  exact ⟨hshort, (((positiveInt_accepts_language _).1 hshort).1 425).1 hread, hread, hmem,
    (positiveInt_accepts_language _).2.1 _ rfl ⟨'_', hmem, rfl⟩⟩

end DeviceGrant.Override
