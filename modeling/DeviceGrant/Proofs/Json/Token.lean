import DeviceGrant.Json.Reader
import Mathlib.Data.List.Basic
import Mathlib.Data.List.TakeDrop
import Mathlib.Tactic.IntervalCases
set_option autoImplicit false

/-! # Reading written texts and whole numbers

The written form of a text or of a whole number is read back, and nothing behind it is touched.
A text ends with its own quotation mark. A whole number ends where no further digit, point or
exponent follows, and so does every written value: behind it stands nothing, a comma or a closing
bracket (`EndsValue`). A number is refused exactly when it has more digits than the limit allows. -/

namespace DeviceGrant

theorem Text.digitsValue_toDigits (n : Nat) : digitsValue (Nat.toDigits 10 n) = n := by
  conv => rhs; rw [← Nat.ofDigitChars_ten_toDigits (n := n)]
  simp only [digitsValue, Nat.ofDigitChars, Nat.mul_comm]
  rfl

namespace Json

/-! ## Texts -/

theorem hexValue?_hexDigit : ∀ d < 16, Text.hexValue? (Text.hexDigit d) = some d := by decide

/-- The four digits of an escape give its number back. -/
theorem hexUnit?_hexDigit {n : Nat} (hn : n < 0x10000) :
    hexUnit? (Text.hexDigit (n / 16 / 16 / 16 % 16)) (Text.hexDigit (n / 16 / 16 % 16))
      (Text.hexDigit (n / 16 % 16)) (Text.hexDigit (n % 16)) = some n := by
  have hdigit : ∀ m : Nat, Text.hexValue? (Text.hexDigit (m % 16)) = some (m % 16) :=
    fun m => hexValue?_hexDigit _ (Nat.mod_lt m (by decide))
  simp only [hexUnit?, hdigit, bind, Option.bind, pure, Option.some.injEq]
  omega

section Texts

variable (done rest : List Char)

theorem readChars_plain {c : Char} (hquote : c ≠ '"') (hslash : c ≠ '\\')
    (hcontrol : ¬ c.toNat < 0x20) :
    readChars done none (c :: rest) = readChars (c :: done) none rest := by
  conv => lhs; unfold readChars
  split <;> simp_all

theorem readChars_escape {e c : Char} (he : simpleEscape? e = some c) (hu : e ≠ 'u') :
    readChars done none ('\\' :: e :: rest) = readChars (c :: done) none rest := by
  conv => lhs; unfold readChars
  split <;> simp_all
  next hlast heq => exact absurd heq.2.symm (hlast _ _ heq.1.symm)

theorem readChars_unit {n : Nat} (hn : n < 0xD800) :
    readChars done none ('\\' :: 'u' :: Text.hexDigits 4 n ++ rest) =
      readChars (Char.ofNat n :: done) none rest := by
  have hunit := hexUnit?_hexDigit (show n < 0x10000 by omega)
  simp only [Text.hexDigits, List.nil_append, List.cons_append]
  conv => lhs; unfold readChars
  simp only [hunit]
  -- Below the surrogates the number is that of a character.
  rw [if_neg (by simp; omega), if_neg (by simp; omega)]

theorem readChars_writeChar (c : Char) :
    readChars done none (writeChar false c ++ rest) = readChars (c :: done) none rest := by
  unfold writeChar
  split
  · next h =>
    rcases (by simpa using h : c = '"' ∨ c = '\\') with rfl | rfl
    · exact readChars_escape done rest rfl (by decide)
    · exact readChars_escape done rest rfl (by decide)
  split
  · next h => subst h; exact readChars_escape done rest rfl (by decide)
  split
  · next h => subst h; exact readChars_escape done rest rfl (by decide)
  split
  · next h => subst h; exact readChars_escape done rest rfl (by decide)
  split
  · next h => subst h; exact readChars_escape done rest rfl (by decide)
  split
  · next h => subst h; exact readChars_escape done rest rfl (by decide)
  split
  · next h =>
    have hn : c.toNat < 0x20 := by simpa using h
    rw [escapeUnits, if_pos (by omega), readChars_unit done rest (by omega), Char.ofNat_toNat]
  · next hspecial _ _ _ _ _ hcontrol =>
    obtain ⟨hquote, hslash⟩ : c ≠ '"' ∧ c ≠ '\\' := by simpa using hspecial
    exact readChars_plain done rest hquote hslash (by simpa using hcontrol)

theorem readChars_flatMap (cs : List Char) :
    readChars done none (cs.flatMap (writeChar false) ++ '"' :: rest) =
      some (done.reverse ++ cs, rest) := by
  induction cs generalizing done with
  | nil => simp [readChars]
  | cons c cs ih =>
    rw [List.flatMap_cons, List.append_assoc, readChars_writeChar, ih]
    simp

end Texts

/-! ## Whole numbers -/

/-- Whether characters may stand behind a written value: none, or a comma or closing bracket
first. -/
def EndsValue (rest : List Char) : Prop := ∀ c ∈ rest.head?, c = ',' ∨ c = ']' ∨ c = '\x7d'

variable {rest : List Char}

theorem isDigit_of_mem_toDigits {c : Char} {n : Nat} (hc : c ∈ Nat.toDigits 10 n) :
    c.isDigit = true :=
  Nat.isDigit_of_mem_toDigits (by decide) (by decide) hc

/-- Only zero is written with a zero in front. -/
theorem length_toDigits_of_head? {n : Nat} (h : (Nat.toDigits 10 n).head? = some '0') :
    (Nat.toDigits 10 n).length = 1 := by
  have hzero : n = 0 := by
    induction n using Nat.strongRecOn with
    | ind n ih =>
      by_cases hn : n < 10
      · rw [Nat.toDigits_of_lt_base hn, List.head?_cons, Option.some.injEq] at h
        interval_cases n <;> first | rfl | exact absurd h (by decide)
      · rw [Nat.toDigits_of_base_le (by decide) (by omega),
          List.head?_append_of_ne_nil _ Nat.toDigits_ne_nil] at h
        have hquotient := ih (n / 10) (by omega) h
        omega
  rw [hzero, Nat.toDigits_zero]
  rfl

theorem splitDigits_toDigits (n : Nat) (h : EndsValue rest) :
    splitDigits (Nat.toDigits 10 n ++ rest) = (Nat.toDigits 10 n, rest) := by
  have hdigits : ∀ c ∈ Nat.toDigits 10 n, c.isDigit = true := fun c => isDigit_of_mem_toDigits
  rw [splitDigits, List.span_eq_takeWhile_dropWhile, List.takeWhile_append_of_pos hdigits,
    List.dropWhile_append_of_pos hdigits]
  cases rest with
  | nil => simp
  | cons c cs => rcases h c rfl with rfl | rfl | rfl <;> simp

theorem readFraction_of_endsValue (h : EndsValue rest) :
    readFraction rest = some (none, rest) := by
  cases rest with
  | nil => rfl
  | cons c cs => rcases h c rfl with rfl | rfl | rfl <;> rfl

theorem readExponent_of_endsValue (h : EndsValue rest) :
    readExponent rest = some (none, rest) := by
  unfold readExponent
  cases rest with
  | nil => rfl
  | cons c cs =>
    have hc := h c rfl
    split <;> simp_all <;> grind

theorem readUnsigned_toDigits (limit : Nat) (negative : Bool) (n : Nat) (h : EndsValue rest) :
    readUnsigned limit negative (Nat.toDigits 10 n ++ rest) =
      if (Nat.toDigits 10 n).length ≤ limit then some (int (if negative then -n else n), rest)
      else none := by
  unfold readUnsigned
  rw [splitDigits_toDigits n h]
  split
  · next heq => exact absurd (congrArg Prod.fst heq) Nat.toDigits_ne_nil
  · next heq => exact absurd (congrArg Prod.fst heq) Nat.toDigits_ne_nil
  · next digits after _ _ heq =>
    obtain ⟨rfl, rfl⟩ := Prod.mk.inj heq
    have hzero : ¬ (((Nat.toDigits 10 n).head? = some '0' &&
        (Nat.toDigits 10 n).length ≠ 1) = true) := by
      simpa using length_toDigits_of_head?
    rw [if_neg hzero]
    simp only [readFraction_of_endsValue h, readExponent_of_endsValue h, Text.digitsValue_toDigits,
      Option.bind_eq_bind, Option.bind_some]
    by_cases hlength : (Nat.toDigits 10 n).length ≤ limit
    · rw [if_pos hlength, if_neg (Nat.not_lt.2 hlength)]
    · rw [if_neg hlength, if_pos (Nat.lt_of_not_le hlength)]

/-- The number of digits with which a whole number is written, its sign not counted. -/
def digitCount (n : Int) : Nat := (Nat.toDigits 10 n.natAbs).length

theorem digitCount_le_iff {n : Int} {limit : Nat} (h : 0 < limit) :
    digitCount n ≤ limit ↔ n.natAbs < 10 ^ limit :=
  Nat.length_toDigits_le_iff (by decide) h

theorem exists_writeInt_eq_cons (n : Int) :
    ∃ c cs, writeInt n = c :: cs ∧ (c = '-' ∨ c.isDigit = true) := by
  unfold writeInt
  split
  · exact ⟨_, _, rfl, .inl rfl⟩
  · obtain ⟨d, ds, hds⟩ :=
      List.exists_cons_of_ne_nil (Nat.toDigits_ne_nil (n := n.natAbs) (b := 10))
    exact ⟨d, ds, hds, .inr (isDigit_of_mem_toDigits (hds ▸ List.mem_cons_self))⟩

theorem readNumber_of_isDigit {limit : Nat} {c : Char} {cs : List Char} (hc : c.isDigit = true) :
    readNumber limit (c :: cs) = readUnsigned limit false (c :: cs) := by
  unfold readNumber
  split
  · next heq =>
    obtain ⟨rfl, _⟩ := List.cons.inj heq
    exact absurd hc (by decide)
  · rfl

theorem readNumber_writeInt (limit : Nat) (n : Int) (h : EndsValue rest) :
    readNumber limit (writeInt n ++ rest) =
      if digitCount n ≤ limit then some (int n, rest) else none := by
  unfold writeInt digitCount
  split
  · next hneg =>
    have hn : -(n.natAbs : Int) = n := by omega
    rw [List.cons_append, readNumber, readUnsigned_toDigits limit true _ h]
    simp only [↓reduceIte, hn]
  · next hneg =>
    have hn : (n.natAbs : Int) = n := by omega
    have hread : readNumber limit (Nat.toDigits 10 n.natAbs ++ rest) =
        readUnsigned limit false (Nat.toDigits 10 n.natAbs ++ rest) := by
      obtain ⟨d, ds, hds⟩ :=
        List.exists_cons_of_ne_nil (Nat.toDigits_ne_nil (n := n.natAbs) (b := 10))
      rw [hds]
      exact readNumber_of_isDigit (isDigit_of_mem_toDigits (hds ▸ List.mem_cons_self))
    rw [hread, readUnsigned_toDigits limit false _ h]
    simp only [Bool.false_eq_true, ↓reduceIte, hn]

end Json

end DeviceGrant
