import DeviceGrant.Proofs.Authorization
import DeviceGrant.Proofs.Text.Trimmed
import Mathlib.Data.Nat.Digits.Defs
set_option autoImplicit false

/-! # What becomes of an override

An override is any value. What it stands for is said here of the value alone, without its reader:
an interval is a whole number above zero or a numeral of one (`Denotes`), an address is a trimmed
text that splits as a web address (`Addresses`). Any other override gives way to the default,
unless nothing can be made of it: a numeral with too many digits, an address that does not split,
and a value that the warning cannot quote (`overrides_decide_answer`).

Few texts do not split: `IsUnsplittable.exists_not_plain` says that such a text has a bracket, or a
character that hides a delimiter. -/

namespace DeviceGrant

/-! ## Plain texts -/

namespace Url

/-- A character that no check of an authority looks for. -/
def isPlain (c : Char) : Bool :=
  c ≠ '[' && c ≠ ']' && !hiddenDelimiters.contains c.toNat

variable {cs : List Char}

theorem checkAuthority_of_plain (h : ∀ c ∈ cs, isPlain c = true) : checkAuthority cs = .ok () := by
  have hopens : cs.contains '[' = false := by
    simpa using fun hc => absurd (h _ hc) (by decide)
  have hcloses : cs.contains ']' = false := by
    simpa using fun hc => absurd (h _ hc) (by decide)
  have hhidden : (cs.any fun c => hiddenDelimiters.contains c.toNat) = false := by
    rw [List.any_eq_false]
    intro c hc
    have := h c hc
    simp_all [isPlain]
  simp only [checkAuthority, hopens, hcloses, hhidden]
  rfl

/-- What follows the scheme is part of the text. -/
theorem mem_of_mem_splitScheme {c : Char} (hc : c ∈ (splitScheme cs).2) : c ∈ cs := by
  unfold splitScheme at hc
  split at hc
  · next hcut =>
    split at hc
    · rw [(Text.eq_of_cutFirst? hcut).1]
      simp [hc]
    · exact hc
  · exact hc

theorem split_of_plain (h : ∀ c ∈ cs, isPlain c = true) : ∃ url, split cs = .ok url := by
  have hrest : ∀ c ∈ (splitScheme (clean cs)).2, isPlain c = true := by
    intro c hc
    have hclean : c ∈ cs.dropWhile _ := (List.mem_filter.1 (mem_of_mem_splitScheme hc)).1
    exact h c ((List.dropWhile_sublist _).subset hclean)
  unfold split
  split
  next scheme rest heq =>
  rw [heq] at hrest
  split
  · next after =>
    -- The checks see the authority only, which is part of the text.
    have hauthority : ∀ c ∈ after.takeWhile fun c => !endsAuthority c, isPlain c = true := by
      intro c hc
      have hafter := (List.takeWhile_sublist _).subset hc
      exact hrest c (by simp [hafter])
    simp only [checkAuthority_of_plain hauthority]
    exact ⟨_, rfl⟩
  · exact ⟨_, rfl⟩

end Url

namespace Override

/-! ## Readers -/

section Readers

variable {α : Type} {read : Value → Except Failure (Option α)} {Accepts : Value → α → Prop}
  {Breaks : Value → Prop}

/-- A reader gives what it accepts, fails on what breaks it, and gives nothing otherwise. -/
structure Meets (read : Value → Except Failure (Option α)) (Accepts : Value → α → Prop)
    (Breaks : Value → Prop) : Prop where
  null : read .null = .ok none
  error_iff : ∀ raw, (∃ f, read raw = .error f) ↔ Breaks raw
  some_iff : ∀ raw a, read raw = .ok (some a) ↔ Accepts raw a ∧ ¬ Breaks raw

/-- Nothing can be made of an override: it breaks its reader, or it is not accepted and cannot be
quoted. -/
def Unusable (Accepts : Value → α → Prop) (Breaks : Value → Prop) (raw : Value) : Prop :=
  Breaks raw ∨ (∀ a, ¬ Accepts raw a) ∧ raw.isPrintable = false

/-- An override decides the outcome: a failure if nothing can be made of it, the value it is
accepted with, or else the default. -/
structure Decides (Accepts : Value → α → Prop) (Breaks : Value → Prop) (raw : Value) (default : α)
    (outcome : Except Failure α) : Prop where
  error_iff : (∃ f, outcome = .error f) ↔ Unusable Accepts Breaks raw
  ok_iff : ∀ a, outcome = .ok a ↔ ¬ Unusable Accepts Breaks raw ∧
    (Accepts raw a ∨ (∀ b, ¬ Accepts raw b) ∧ a = default)

theorem Meets.none_iff (h : Meets read Accepts Breaks) (raw : Value) :
    read raw = .ok none ↔ (∀ a, ¬ Accepts raw a) ∧ ¬ Breaks raw := by
  rw [← h.error_iff raw]
  constructor
  · intro hnone
    have hreads : ¬ ∃ f, read raw = .error f := by simp [hnone]
    refine ⟨fun a ha => ?_, hreads⟩
    have hsome := (h.some_iff raw a).2 ⟨ha, fun hb => hreads ((h.error_iff raw).2 hb)⟩
    simp [hnone] at hsome
  · rintro ⟨haccepts, hreads⟩
    rcases hread : read raw with f | _ | a
    · exact absurd ⟨f, hread⟩ hreads
    · rfl
    · exact absurd ((h.some_iff raw a).1 hread).1 (haccepts a)

theorem Meets.fails_iff (h : Meets read Accepts Breaks) (raw : Value) :
    Fails read raw ↔ Unusable Accepts Breaks raw := by
  rw [Fails, Unusable, h.error_iff, h.none_iff]
  constructor
  · rintro ⟨-, hb | ⟨⟨ha, -⟩, hprint⟩⟩
    · exact .inl hb
    · exact .inr ⟨ha, hprint⟩
  · intro hunusable
    refine ⟨?_, by tauto⟩
    -- Null is read and gives nothing, and it can be quoted.
    rintro rfl
    obtain ⟨-, hreads⟩ := (h.none_iff .null).1 h.null
    rcases hunusable with hb | ⟨-, hprint⟩
    · exact hreads hb
    · cases hprint

/-- An override that is read gives its value, and one that is passed over the default. -/
theorem resolve_eq_ok_iff (read : Value → Except Failure (Option α)) (raw : Value) (default a : α)
    (name : String) (hnull : read .null = .ok none) :
    (resolve read raw default name).value = .ok a ↔
      read raw = .ok (some a) ∨ read raw = .ok none ∧ raw.isPrintable = true ∧ a = default := by
  by_cases hraw : raw = .null
  · subst hraw
    simp [resolve, Logged.silent, hnull, Value.isPrintable, eq_comm]
  · rcases hread : read raw with f | _ | b
    · simp [resolve, hread, Logged.silent]
    · cases hprint : raw.isPrintable <;>
        simp [resolve, hread, hprint, Logged.silent, eq_comm]
    · simp [resolve, hread, Logged.silent]

theorem resolve_text_of_error {s : String} {f : Failure} {default : α} {name : String}
    (h : read (.text s) = .error f) : (resolve read (.text s) default name).value = .error f := by
  simp only [resolve, h, Logged.silent]

theorem Meets.decides (h : Meets read Accepts Breaks) (raw : Value) (default : α)
    (name : String) :
    Decides Accepts Breaks raw default (resolve read raw default name).value where
  error_iff := (resolve_error_iff read raw default name).trans (h.fails_iff raw)
  ok_iff a := by
    rw [resolve_eq_ok_iff read raw default a name h.null, h.some_iff, h.none_iff]
    constructor
    · rintro (⟨ha, hb⟩ | ⟨⟨hnone, hb⟩, hprint, rfl⟩)
      · refine ⟨?_, .inl ha⟩
        rintro (hbreaks | ⟨hnone, -⟩)
        · exact hb hbreaks
        · exact hnone a ha
      · refine ⟨?_, .inr ⟨hnone, rfl⟩⟩
        rintro (hbreaks | ⟨-, hunprintable⟩)
        · exact hb hbreaks
        · rw [hprint] at hunprintable
          cases hunprintable
    · rintro ⟨husable, haccepts⟩
      have hb : ¬ Breaks raw := fun hbreaks => husable (.inl hbreaks)
      rcases haccepts with ha | ⟨hnone, rfl⟩
      · exact .inl ⟨ha, hb⟩
      · have hprint : raw.isPrintable = true := by
          by_contra hunprintable
          exact husable (.inr ⟨hnone, by simpa using hunprintable⟩)
        exact .inr ⟨⟨hnone, hb⟩, hprint, rfl⟩

end Readers

/-! ## Intervals -/

/-- The number that decimal digits denote: the last one counts once, the one before ten times. -/
def decimalValue (ds : List Char) : Nat :=
  Nat.ofDigits 10 (ds.reverse.map fun c => c.toNat - '0'.toNat)

theorem digitsValue_eq_decimalValue (ds : List Char) : Text.digitsValue ds = decimalValue ds := by
  rw [decimalValue, Nat.ofDigits_eq_foldr, List.foldr_map, List.foldr_reverse, Text.digitsValue]
  congr
  funext n c
  simp only [Nat.cast_id, Char.reduceToNat]
  omega

/-- A text is decimal digits between blanks. -/
structure IsNumeral (s : String) (ds : List Char) : Prop where
  trimmed : Text.IsTrimmed s.toList ds
  nonempty : ds ≠ []
  digits : ∀ c ∈ ds, c.isDigit = true

/-- The whole numbers above zero that values stand for: a number for itself, and a numeral for the
number it denotes. -/
inductive Denotes : Value → Int → Prop
  | number {n : Int} (pos : 0 < n) : Denotes (.int n) n
  | numeral {s : String} {ds : List Char} (isNumeral : IsNumeral s ds)
      (pos : 0 < decimalValue ds) : Denotes (.text s) (decimalValue ds)

/-- A numeral with too many digits. -/
inductive IsLongNumeral : Value → Prop
  | numeral {s : String} {ds : List Char} (isNumeral : IsNumeral s ds)
      (long : maxDigits < ds.length) : IsLongNumeral (.text s)

theorem Denotes.pos {raw : Value} {n : Int} (h : Denotes raw n) : 0 < n := by
  cases h with
  | number pos => exact pos
  | numeral _ pos => exact_mod_cast pos

theorem positive?_eq_some_iff {n k : Int} : positive? n = some k ↔ 0 < n ∧ n = k := by
  simp [positive?]

section Numerals

variable {s : String}

theorem isNumeral_iff {ds : List Char} :
    IsNumeral s ds ↔ ds = Text.trimChars s.toList ∧ !ds.isEmpty && ds.all Char.isDigit := by
  rw [Bool.and_eq_true, List.all_eq_true, ← Text.isTrimmed_iff]
  constructor
  · rintro ⟨htrimmed, hnonempty, hdigits⟩
    exact ⟨htrimmed, by simpa using hnonempty, hdigits⟩
  · rintro ⟨htrimmed, hnonempty, hdigits⟩
    exact ⟨htrimmed, by simpa using hnonempty, hdigits⟩

theorem positiveInt_of_isNumeral {ds : List Char} (h : IsNumeral s ds) :
    positiveInt (.text s) = if maxDigits < ds.length then .error (.numeralTooLong ds.length)
      else .ok (positive? (decimalValue ds)) := by
  obtain ⟨rfl, hdigits⟩ := isNumeral_iff.1 h
  simp only [positiveInt, hdigits, if_true, digitsValue_eq_decimalValue]

theorem positiveInt_of_no_numeral (h : ∀ ds, ¬ IsNumeral s ds) :
    positiveInt (.text s) = .ok none := by
  have hdigits := fun hds => h _ (isNumeral_iff.2 ⟨rfl, hds⟩)
  simp only [positiveInt, if_neg hdigits]

theorem isBlank_of_isDigit {c : Char} (h : c.isDigit = true) : Text.isBlank c = false := by
  obtain ⟨hlow, hhigh⟩ : 48 ≤ c.toNat ∧ c.toNat ≤ 57 := by
    simpa [Char.isDigit, UInt32.le_iff_toNat_le] using h
  simp [Text.isBlank]
  omega

/-- Digits without blanks are a numeral. -/
theorem isNumeral_of_digits {ds : List Char} (hne : ds ≠ []) (h : ∀ c ∈ ds, c.isDigit = true) :
    IsNumeral (String.ofList ds) ds where
  trimmed := by
    rw [String.toList_ofList]
    exact ⟨⟨[], [], by simp⟩, fun c hc => isBlank_of_isDigit (h c (List.mem_of_mem_head? hc)),
      fun c hc => isBlank_of_isDigit (h c (List.mem_of_mem_getLast? hc))⟩
  nonempty := hne
  digits := h

theorem IsNumeral.unique {ds es : List Char} (hds : IsNumeral s ds) (hes : IsNumeral s es) :
    ds = es :=
  (isNumeral_iff.1 hds).1.trans (isNumeral_iff.1 hes).1.symm

theorem isLongNumeral_iff {ds : List Char} (h : IsNumeral s ds) :
    IsLongNumeral (.text s) ↔ maxDigits < ds.length := by
  refine ⟨?_, .numeral h⟩
  rintro ⟨hes, hlong⟩
  rwa [h.unique hes]

theorem denotes_iff {ds : List Char} {n : Int} (h : IsNumeral s ds) :
    Denotes (.text s) n ↔ 0 < (decimalValue ds : Int) ∧ (decimalValue ds : Int) = n := by
  constructor
  · rintro (_ | ⟨hes, hpos⟩)
    rw [h.unique hes]
    exact ⟨by exact_mod_cast hpos, rfl⟩
  · rintro ⟨hpos, rfl⟩
    exact .numeral h (by exact_mod_cast hpos)

end Numerals

/-- Only a text can break the reader, and only by its length. -/
theorem positiveInt_error_iff (raw : Value) :
    (∃ f, positiveInt raw = .error f) ↔ IsLongNumeral raw := by
  cases raw with
  | text s =>
    by_cases h : ∃ ds, IsNumeral s ds
    · obtain ⟨ds, hds⟩ := h
      rw [positiveInt_of_isNumeral hds, isLongNumeral_iff hds]
      split <;> simp [*]
    · -- No numeral, so the text is passed over whatever its length.
      have hread := positiveInt_of_no_numeral (not_exists.1 h)
      refine ⟨fun ⟨f, hf⟩ => ?_, fun ⟨hds, _⟩ => absurd ⟨_, hds⟩ h⟩
      rw [hread] at hf
      cases hf
  | _ => exact iff_of_false (fun ⟨_, hf⟩ => nomatch hf) nofun

theorem positiveInt_some_iff (raw : Value) (n : Int) :
    positiveInt raw = .ok (some n) ↔ Denotes raw n ∧ ¬ IsLongNumeral raw := by
  cases raw with
  | int k =>
    rw [positiveInt, Except.ok.injEq, positive?_eq_some_iff]
    constructor
    · rintro ⟨hpos, rfl⟩
      exact ⟨.number hpos, nofun⟩
    · rintro ⟨⟨hpos⟩, -⟩
      exact ⟨hpos, rfl⟩
  | text s =>
    by_cases h : ∃ ds, IsNumeral s ds
    · obtain ⟨ds, hds⟩ := h
      rw [positiveInt_of_isNumeral hds, isLongNumeral_iff hds, denotes_iff hds]
      split
      · next hlong => simp [hlong]
      · next hshort => rw [Except.ok.injEq, positive?_eq_some_iff, and_iff_left hshort]
    · have hread := positiveInt_of_no_numeral (not_exists.1 h)
      refine ⟨fun hn => ?_, fun ⟨hn, _⟩ => ?_⟩
      · rw [hread] at hn
        cases hn
      · cases hn with
        | numeral hds _ => exact absurd ⟨_, hds⟩ h
  | _ => exact iff_of_false nofun (fun ⟨hn, _⟩ => nomatch hn)

theorem positiveInt_meets : Meets positiveInt Denotes IsLongNumeral :=
  ⟨rfl, positiveInt_error_iff, positiveInt_some_iff⟩

/-- With a default above zero, whatever interval results is above zero. -/
theorem interval_pos {client : Client} {default n : Int} (hdefault : 0 < default)
    (h : (interval client default).value = .ok n) : 0 < n := by
  obtain ⟨-, hn | ⟨-, rfl⟩⟩ :=
    ((positiveInt_meets.decides client.intervalOverride default intervalKey).ok_iff n).1 h
  · exact hn.pos
  · exact hdefault

/-! ## Addresses -/

/-- The addresses that values stand for: a trimmed text that splits as a web address with an
authority. -/
inductive Addresses : Value → String → Prop
  | absolute {s u : String} {url : Url} (trimmed : Text.IsTrimmed s.toList u.toList)
      (splits : Url.split u.toList = .ok url) (web : isWebScheme url.scheme = true)
      (authority : url.authority ≠ []) : Addresses (.text s) u

/-- A trimmed text that does not split as a URL. -/
inductive IsUnsplittable : Value → Prop
  | text {s u : String} {fault : UrlFault} (trimmed : Text.IsTrimmed s.toList u.toList)
      (fails : Url.split u.toList = .error fault) : IsUnsplittable (.text s)

theorem isTrimmed_iff_eq_trim {s u : String} :
    Text.IsTrimmed s.toList u.toList ↔ u = Text.trim s := by
  rw [Text.isTrimmed_iff, Text.trim, ← String.toList_inj, String.toList_ofList]

/-- The empty text splits as well, but has no scheme. -/
theorem absoluteUrl_text (s : String) :
    absoluteUrl (.text s) = match Url.split (Text.trim s).toList with
      | .error f => .error (.url f)
      | .ok url =>
        if isWebScheme url.scheme && !url.authority.isEmpty then .ok (some (Text.trim s))
        else .ok none := by
  rw [absoluteUrl, Text.trim, String.toList_ofList]
  cases Text.trimChars s.toList with
  | nil => rfl
  | cons c cs => rfl

theorem absoluteUrl_error_iff (raw : Value) :
    (∃ f, absoluteUrl raw = .error f) ↔ IsUnsplittable raw := by
  cases raw with
  | text s =>
    rw [absoluteUrl_text]
    constructor
    · rintro ⟨f, hf⟩
      split at hf
      · next fault hfault => exact .text (isTrimmed_iff_eq_trim.2 rfl) hfault
      · split at hf <;> cases hf
    · rintro ⟨htrimmed, hfault⟩
      rw [isTrimmed_iff_eq_trim.1 htrimmed] at hfault
      rw [hfault]
      exact ⟨_, rfl⟩
  | _ => exact iff_of_false (fun ⟨_, hf⟩ => nomatch hf) nofun

theorem absoluteUrl_some_iff (raw : Value) (u : String) :
    absoluteUrl raw = .ok (some u) ↔ Addresses raw u ∧ ¬ IsUnsplittable raw := by
  rw [← absoluteUrl_error_iff]
  cases raw with
  | text s =>
    rw [absoluteUrl_text]
    constructor
    · intro hu
      split at hu
      · cases hu
      · next url hurl =>
        split at hu
        · next haccepted =>
          obtain ⟨hweb, hauthority⟩ := Bool.and_eq_true_iff.1 haccepted
          cases hu
          refine ⟨.absolute (isTrimmed_iff_eq_trim.2 rfl) hurl hweb (by simpa using hauthority), ?_⟩
          simp [haccepted]
        · cases hu
    · rintro ⟨⟨htrimmed, hurl, hweb, hauthority⟩, -⟩
      obtain rfl := isTrimmed_iff_eq_trim.1 htrimmed
      simp [hurl, hweb, hauthority]
  | _ => exact iff_of_false nofun (fun ⟨hu, _⟩ => nomatch hu)

theorem absoluteUrl_meets : Meets absoluteUrl Addresses IsUnsplittable :=
  ⟨rfl, absoluteUrl_error_iff, absoluteUrl_some_iff⟩

/-- Only a bracket, or a character that hides a delimiter, keeps a text from being split. -/
theorem IsUnsplittable.exists_not_plain {s : String} (h : IsUnsplittable (.text s)) :
    ∃ c ∈ s.toList, Url.isPlain c = false := by
  cases h with
  | @text _ u _ htrimmed hfault =>
    obtain ⟨before, after, hs, -, -⟩ := htrimmed.between
    by_contra hnone
    have hplain : ∀ c ∈ s.toList, Url.isPlain c = true := by simpa using hnone
    have hpart : ∀ c ∈ u.toList, Url.isPlain c = true :=
      fun c hc => hplain c (by rw [hs]; simp [hc])
    obtain ⟨url, hurl⟩ := Url.split_of_plain hpart
    rw [hfault] at hurl
    cases hurl

/-! ## Answers -/

end Override

theorem DeviceResponse.build_eq_ok_iff {userCode deviceCode path : String} {client : Client}
    {context : RequestContext} {default expiresIn : Int} {a : DeviceResponse} :
    (build userCode deviceCode client context path default expiresIn).value = .ok a ↔
      ∃ u n, (Override.verificationUri client context path).value = .ok u ∧
        (Override.interval client default).value = .ok n ∧
        a = ⟨deviceCode, userCode, u, n, expiresIn⟩ := by
  cases huri : (Override.verificationUri client context path).value with
  | error f => simp [build, huri]
  | ok u =>
    cases hinterval : (Override.interval client default).value with
    | error f => simp [build, huri, hinterval]
    | ok n => simp [build, huri, hinterval, eq_comm]

namespace Override

/-- Only the two overrides decide which address and interval a client gets, and whether it gets an
answer at all. There is an address unless the override is a text that does not split, or no text
and holds a number too long to quote; there is an interval unless the override is a numeral of too
many digits, or stands for no interval and holds a number too long to quote. The interval is the
number that the override stands for, and the default where it stands for none; the address is the
trimmed override where that is a web address, and elsewhere the derived one. The answer has these
two beside the codes and the lifetime it is built for. -/
theorem overrides_decide_answer (client : Client) (context : RequestContext) (path : String)
    (default : Int) (userCode deviceCode : String) (expiresIn : Int) :
    let address := (verificationUri client context path).value
    let wait := (interval client default).value
    let answer := (DeviceResponse.build userCode deviceCode client context path default
      expiresIn).value
    Decides Addresses IsUnsplittable client.verificationUriOverride
      (derivedUri context.baseUrl path) address ∧
    Decides Denotes IsLongNumeral client.intervalOverride default wait ∧
    ((∃ f, answer = .error f) ↔ Unusable Addresses IsUnsplittable client.verificationUriOverride ∨
      Unusable Denotes IsLongNumeral client.intervalOverride) ∧
    ∀ a, answer = .ok a ↔ ∃ u n, address = .ok u ∧ wait = .ok n ∧
      a = ⟨deviceCode, userCode, u, n, expiresIn⟩ := by
  intro address wait answer
  refine ⟨absoluteUrl_meets.decides .., positiveInt_meets.decides .., ?_,
    fun a => DeviceResponse.build_eq_ok_iff⟩
  rw [DeviceResponse.build_error_iff, Client.HasBrokenOverride, absoluteUrl_meets.fails_iff,
    positiveInt_meets.fails_iff]

/-! ### Overrides that break the answer -/

/-- A client with nothing but an interval override. -/
def intervalClient (raw : Value) : Client := ⟨"tv", .empty, .ofList [(intervalKey, raw)]⟩

theorem intervalOverride_intervalClient (raw : Value) :
    (intervalClient raw).intervalOverride = raw := rfl

/-- A numeral of one digit too many. -/
def longNumeral : List Char := List.replicate (maxDigits + 1) '1'

theorem positiveInt_longNumeral :
    positiveInt (.text (String.ofList longNumeral)) = .error (.numeralTooLong 4301) := by
  have hlength : longNumeral.length = maxDigits + 1 := List.length_replicate
  have hnumeral : IsNumeral (String.ofList longNumeral) longNumeral :=
    isNumeral_of_digits (List.ne_nil_of_length_pos (by omega))
      fun c hc => by rw [List.eq_of_mem_replicate hc]; rfl
  rw [positiveInt_of_isNumeral hnumeral, hlength, if_pos (Nat.lt_succ_self _)]
  rfl

/-- There is a failure in place of the derived address, and in place of the default interval. -/
theorem override_breaks_answer :
    (DeviceResponse.build "u" "d" Service.bracketClient ⟨"https://host/oauth/device_authorize"⟩
      defaultVerificationPath defaultInterval 600).value = .error (.url .brackets) ∧
    (interval (intervalClient (.text (String.ofList longNumeral))) defaultInterval).value =
      .error (.numeralTooLong 4301) := by
  constructor
  · decide
  · rw [interval, intervalOverride_intervalClient]
    exact resolve_text_of_error positiveInt_longNumeral

end Override

end DeviceGrant
