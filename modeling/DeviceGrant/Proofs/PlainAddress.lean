import DeviceGrant.Proofs.WebAddress
set_option autoImplicit false

/-! # Plain addresses are honoured as they are

An address that an operator would write down has a scheme of the web, a host of letters, digits,
points and hyphens, perhaps a port, and then nothing or a path, a query or a fragment of visible
characters (`IsPlainAddress`). Nothing in it is dropped or refused on the way through the reader:
cleaning leaves it alone (`isTidy`), it splits (`exists_split_eq`), since only
its authority is checked for brackets and the rest may hold any. So a client with such an
override is given exactly this address, whatever blanks stand around it
(`plain_address_honoured`). -/

namespace DeviceGrant

/-! ## Plain addresses -/

/-- A printable character of ASCII that is not a space. -/
def isVisible (c : Char) : Bool := 0x21 ≤ c.toNat && c.toNat ≤ 0x7E

/-- A character of a plain host. -/
def isHostChar (c : Char) : Bool := c.isAlphanum || c = '.' || c = '-'

/-- A colon and digits, or nothing. -/
inductive IsPort : List Char → Prop
  | absent : IsPort []
  | digits {ds : List Char} (digits : ∀ d ∈ ds, d.isDigit = true) : IsPort (':' :: ds)

/-- A character that ends an authority and visible characters behind it, or nothing. -/
inductive IsTail : List Char → Prop
  | absent : IsTail []
  | visible {c : Char} {cs : List Char} (ends : Url.endsAuthority c = true)
      (visible : ∀ d ∈ cs, isVisible d = true) : IsTail (c :: cs)

/-- A scheme of the web, a colon, two slashes, a host that is not empty, and perhaps a port and a
path, a query or a fragment. -/
inductive IsPlainAddress : List Char → Prop
  | intro {scheme host port tail : List Char} (web : IsWebWord scheme) (nonempty : host ≠ [])
      (hostChars : ∀ c ∈ host, isHostChar c = true) (isPort : IsPort port) (isTail : IsTail tail) :
      IsPlainAddress (scheme ++ ':' :: '/' :: '/' :: (host ++ port ++ tail))

variable {c : Char} {cs scheme host port tail before after : List Char} {u : String}

/-! ## Characters -/

theorem isVisible_iff : isVisible c = true ↔ 0x21 ≤ c.toNat ∧ c.toNat ≤ 0x7E := by
  simp [isVisible]

theorem isVisible_of_isAlphanum (h : c.isAlphanum = true) : isVisible c = true := by
  rw [isVisible_iff]
  simp [Char.isAlphanum, Char.isAlpha, Char.isUpper, Char.isLower, Char.isDigit,
    UInt32.le_iff_toNat_le] at h
  have hval : c.val.toNat = c.toNat := rfl
  omega

theorem isVisible_of_isHostChar (h : isHostChar c = true) : isVisible c = true := by
  simp only [isHostChar, Bool.or_eq_true, decide_eq_true_eq] at h
  rcases h with (h | rfl) | rfl
  · exact isVisible_of_isAlphanum h
  · decide
  · decide

theorem isVisible_of_endsAuthority (h : Url.endsAuthority c = true) : isVisible c = true := by
  simp only [Url.endsAuthority, Bool.or_eq_true, decide_eq_true_eq] at h
  rcases h with (rfl | rfl) | rfl <;> decide

theorem isBlank_of_isVisible (h : isVisible c = true) : Text.isBlank c = false := by
  rw [isVisible_iff] at h
  simp [Text.isBlank]
  omega

theorem isLineControl_of_isVisible (h : isVisible c = true) : isLineControl c = false := by
  rw [isVisible_iff] at h
  have hne : c ≠ '\t' ∧ c ≠ '\r' ∧ c ≠ '\n' := by
    refine ⟨?_, ?_, ?_⟩ <;> rintro rfl <;> simp at h
  simp [isLineControl, hne]

/-- The characters that hide a delimiter are all outside of ASCII. -/
theorem isPlain_of_isVisible (h : isVisible c = true) (hopens : c ≠ '[') (hcloses : c ≠ ']') :
    Url.isPlain c = true := by
  rw [isVisible_iff] at h
  have hhidden : c.toNat ∉ Url.hiddenDelimiters := by
    intro hmem
    simp only [Url.hiddenDelimiters, List.mem_cons, List.not_mem_nil, or_false] at hmem
    omega
  simp [Url.isPlain, hopens, hcloses, hhidden]

/-! ## Authorities -/

/-- What stands behind a scheme and two slashes, up to the end of the authority, is checked. -/
theorem Url.split_of_parts (h : splitScheme (clean cs) = (scheme, '/' :: '/' :: after)) :
    split cs = (checkAuthority (after.takeWhile fun c => !endsAuthority c)).map fun _ =>
      ⟨scheme, after.takeWhile fun c => !endsAuthority c⟩ := by
  rw [split, h]
  rfl

theorem isHostChar_or_colon (hhost : ∀ c ∈ host, isHostChar c = true) (hport : IsPort port)
    (hc : c ∈ host ++ port) : isHostChar c = true ∨ c = ':' := by
  rcases List.mem_append.1 hc with hc | hc
  · exact .inl (hhost c hc)
  · cases hport with
    | absent => cases hc
    | digits hdigits =>
      rcases List.mem_cons.1 hc with rfl | hc
      · exact .inr rfl
      · left
        simp [isHostChar, Char.isAlphanum, hdigits c hc]

theorem isVisible_of_mem_authority (h : isHostChar c = true ∨ c = ':') : isVisible c = true := by
  rcases h with h | rfl
  · exact isVisible_of_isHostChar h
  · decide

/-- No character of a host or a port is a bracket. -/
theorem isPlain_of_mem_authority (h : isHostChar c = true ∨ c = ':') : Url.isPlain c = true := by
  refine isPlain_of_isVisible (isVisible_of_mem_authority h) ?_ ?_ <;>
  · rintro rfl
    revert h
    decide

/-- No character of a host or a port ends an authority. -/
theorem endsAuthority_of_mem_authority (h : isHostChar c = true ∨ c = ':') :
    Url.endsAuthority c = false := by
  by_contra hends
  simp only [Url.endsAuthority, Bool.not_eq_false, Bool.or_eq_true, decide_eq_true_eq] at hends
  rcases hends with (rfl | rfl) | rfl <;> revert h <;> decide

/-- The authority of a plain address is its host and its port. -/
theorem takeWhile_authority (hhost : ∀ c ∈ host, isHostChar c = true) (hport : IsPort port)
    (htail : IsTail tail) :
    (host ++ port ++ tail).takeWhile (fun c => !Url.endsAuthority c) = host ++ port := by
  have hauthority : ∀ c ∈ host ++ port, (!Url.endsAuthority c) = true := by
    intro c hc
    rw [endsAuthority_of_mem_authority (isHostChar_or_colon hhost hport hc)]
    rfl
  rw [List.takeWhile_append_of_pos hauthority]
  cases htail with
  | absent => simp
  | visible ends _ => rw [List.takeWhile_cons_of_neg (by simp [ends]), List.append_nil]

namespace IsPlainAddress

/-! ## The way through the reader -/

theorem isVisible (h : IsPlainAddress cs) (hc : c ∈ cs) : isVisible c = true := by
  cases h with
  | @intro scheme host port tail hweb hnonempty hhost hport htail =>
    simp only [List.mem_append, List.mem_cons] at hc
    rcases hc with hc | rfl | rfl | rfl | (hc | hc) | hc
    · refine isVisible_of_isAlphanum ?_
      rw [Char.isAlphanum, hweb.isAlpha hc]
      rfl
    · decide
    · decide
    · decide
    · exact isVisible_of_isHostChar (hhost c hc)
    · exact isVisible_of_mem_authority
        (isHostChar_or_colon hhost hport (List.mem_append_right host hc))
    · cases htail with
      | absent => cases hc
      | visible hends hvisible =>
        rcases List.mem_cons.1 hc with rfl | hc
        · exact isVisible_of_endsAuthority hends
        · exact hvisible c hc

theorem isTidy (h : IsPlainAddress cs) : IsTidy cs where
  start := by
    intro c hc
    have hvisible := isVisible_iff.1 (h.isVisible (List.mem_of_mem_head? hc))
    omega
  inner := by
    intro c hc
    exact isLineControl_of_isVisible (h.isVisible hc)

/-- Blanks around a plain address are all that trimming takes off. -/
theorem isTrimmed (h : IsPlainAddress cs) (hbefore : ∀ c ∈ before, Text.isBlank c = true)
    (hafter : ∀ c ∈ after, Text.isBlank c = true) :
    Text.IsTrimmed (before ++ cs ++ after) cs where
  between := ⟨before, after, rfl, hbefore, hafter⟩
  start := by
    intro c hc
    exact isBlank_of_isVisible (h.isVisible (List.mem_of_mem_head? hc))
  last := by
    intro c hc
    exact isBlank_of_isVisible (h.isVisible (List.mem_of_mem_getLast? hc))

/-- A plain address splits, and into a scheme of the web and an authority. -/
theorem exists_split_eq (h : IsPlainAddress cs) :
    ∃ url, Url.split cs = .ok url ∧ Override.isWebScheme url.scheme = true ∧
      url.authority ≠ [] := by
  have hclean := h.isTidy.clean_eq
  cases h with
  | @intro scheme host port tail hweb hnonempty hhost hport htail =>
    have hscheme := IsWebWord.isWebScheme_iff.2 hweb
    have hparts : Url.splitScheme (scheme ++ ':' :: '/' :: '/' :: (host ++ port ++ tail)) =
        (scheme.map Char.toLower, '/' :: '/' :: (host ++ port ++ tail)) :=
      (Url.splitScheme_eq_iff hscheme).2 ⟨scheme, hweb, rfl, rfl⟩
    have hcheck : Url.checkAuthority (host ++ port) = .ok () := by
      refine Url.checkAuthority_of_plain fun c hc => ?_
      exact isPlain_of_mem_authority (isHostChar_or_colon hhost hport hc)
    refine ⟨⟨scheme.map Char.toLower, host ++ port⟩, ?_, hscheme, by simp [hnonempty]⟩
    rw [Url.split_of_parts (hclean.symm ▸ hparts), takeWhile_authority hhost hport htail, hcheck]
    rfl

end IsPlainAddress

namespace Override

/-! ## Overrides -/

theorem absoluteUrl_of_isPlainAddress (hu : IsPlainAddress u.toList)
    (hbefore : ∀ c ∈ before, Text.isBlank c = true) (hafter : ∀ c ∈ after, Text.isBlank c = true) :
    absoluteUrl (.text (String.ofList (before ++ u.toList ++ after))) = .ok (some u) := by
  have htrimmed : Text.IsTrimmed (String.ofList (before ++ u.toList ++ after)).toList u.toList := by
    rw [String.toList_ofList]
    exact hu.isTrimmed hbefore hafter
  obtain ⟨url, hsplit, hweb, hauthority⟩ := hu.exists_split_eq
  rw [absoluteUrl_some_iff]
  refine ⟨.absolute htrimmed hsplit hweb hauthority, ?_⟩
  -- A text has one trimmed part, so what splits is what would have to fail.
  rintro ⟨htrimmed', hfails⟩
  rw [isTrimmed_iff_eq_trim] at htrimmed htrimmed'
  rw [htrimmed', ← htrimmed, hsplit] at hfails
  cases hfails

theorem resolve_text_of_some {α : Type} {read : Value → Except Failure (Option α)} {s : String}
    {a default : α} {name : String} (h : read (.text s) = .ok (some a)) :
    resolve read (.text s) default name = .silent (.ok a) := by
  simp only [resolve, h]

end Override

/-- With an address that was found silently, the answer is settled by the interval alone. -/
theorem DeviceResponse.build_of_verificationUri {client : Client} {context : RequestContext}
    {path : String} (h : Override.verificationUri client context path = .silent (.ok u))
    (userCode deviceCode : String) (default expiresIn : Int) :
    build userCode deviceCode client context path default expiresIn =
      (Override.interval client default).map fun wait =>
        wait.map fun n => ⟨deviceCode, userCode, u, n, expiresIn⟩ := by
  simp only [build, h, Logged.silent, Logged.map, List.nil_append]
  cases (Override.interval client default).value with
  | error f => rfl
  | ok n => rfl

namespace Override

/-- A plain address, with whatever blanks around it, is accepted and stays as it is. A client with
this override is given it for every request and every verification path, and nothing is logged; in
its answer it stands beside the interval, which alone decides what else becomes of the answer. A
client with no other override has an answer, with the default interval and again without a line in
the log. -/
theorem plain_address_honoured (u : String) (before after : List Char)
    (hu : IsPlainAddress u.toList) (hbefore : ∀ c ∈ before, Text.isBlank c = true)
    (hafter : ∀ c ∈ after, Text.isBlank c = true) :
    let raw := Value.text (String.ofList (before ++ u.toList ++ after))
    absoluteUrl raw = .ok (some u) ∧
    ∀ client, client.verificationUriOverride = raw →
      ∀ (context : RequestContext) (path : String),
        verificationUri client context path = .silent (.ok u) ∧
        ∀ (userCode deviceCode : String) (default expiresIn : Int),
          let answer := DeviceResponse.build userCode deviceCode client context path default expiresIn
          (answer = (interval client default).map fun wait =>
            wait.map fun n => ⟨deviceCode, userCode, u, n, expiresIn⟩) ∧
          (client.intervalOverride = .null →
            answer = .silent (.ok ⟨deviceCode, userCode, u, default, expiresIn⟩)) := by
  intro raw
  have hread : absoluteUrl raw = .ok (some u) := absoluteUrl_of_isPlainAddress hu hbefore hafter
  refine ⟨hread, ?_⟩
  intro client hclient context path
  have haddress : verificationUri client context path = .silent (.ok u) := by
    rw [verificationUri, hclient]
    exact resolve_text_of_some hread
  refine ⟨haddress, ?_⟩
  intro userCode deviceCode default expiresIn answer
  have hanswer := DeviceResponse.build_of_verificationUri haddress userCode deviceCode default
    expiresIn
  refine ⟨hanswer, ?_⟩
  intro hnone
  have hwait : interval client default = .silent (.ok default) := by
    rw [interval, hnone]
    rfl
  rw [hwait] at hanswer
  exact hanswer

/-- An address in capital letters, with a port and with brackets in its query. -/
def shoutedAddress : String := "HTTPS://Tv.Example.ORG:8443?next=[a]#~"

theorem isPlainAddress_shoutedAddress : IsPlainAddress shoutedAddress.toList := by
  have hparts : shoutedAddress.toList = "HTTPS".toList ++ ':' :: '/' :: '/' ::
      ("Tv.Example.ORG".toList ++ ':' :: "8443".toList ++ '?' :: "next=[a]#~".toList) := by
    decide +kernel
  have hhost : "Tv.Example.ORG".toList.all isHostChar = true := by decide +kernel
  have hport : "8443".toList.all Char.isDigit = true := by decide +kernel
  have htail : "next=[a]#~".toList.all isVisible = true := by decide +kernel
  rw [hparts]
  exact .intro (by decide) (by decide) (List.all_eq_true.1 hhost) (.digits (List.all_eq_true.1 hport))
    (.visible (by decide) (List.all_eq_true.1 htail))

/-- A client with nothing but an address override. -/
def addressClient (raw : Value) : Client := ⟨"tv", .empty, .ofList [(verificationUriKey, raw)]⟩

theorem verificationUriOverride_addressClient (raw : Value) :
    (addressClient raw).verificationUriOverride = raw := rfl

/-- It is honoured between an ideographic space and a line end, and answered. -/
theorem plain_address_honoured_shouted :
    IsPlainAddress shoutedAddress.toList ∧
    (∀ c ∈ ['\u3000'], Text.isBlank c = true) ∧ (∀ c ∈ ['\n'], Text.isBlank c = true) ∧
    absoluteUrl (.text "\u3000HTTPS://Tv.Example.ORG:8443?next=[a]#~\n") =
      .ok (some shoutedAddress) ∧
    DeviceResponse.build "u" "d"
        (addressClient (.text "\u3000HTTPS://Tv.Example.ORG:8443?next=[a]#~\n"))
        ⟨"https://host/oauth/device_authorize"⟩ defaultVerificationPath defaultInterval 600 =
      .silent (.ok ⟨"d", "u", shoutedAddress, defaultInterval, 600⟩) := by
  have hbefore : ∀ c ∈ ['\u3000'], Text.isBlank c = true := by simp [Text.isBlank]
  have hafter : ∀ c ∈ ['\n'], Text.isBlank c = true := by simp [Text.isBlank]
  have haround : String.ofList (['\u3000'] ++ shoutedAddress.toList ++ ['\n']) =
      "\u3000HTTPS://Tv.Example.ORG:8443?next=[a]#~\n" := by
    decide +kernel
  have h := plain_address_honoured shoutedAddress _ _ isPlainAddress_shoutedAddress hbefore hafter
  rw [haround] at h
  obtain ⟨hread, hclient⟩ := h
  have hanswer := ((hclient _ (verificationUriOverride_addressClient _)
    ⟨"https://host/oauth/device_authorize"⟩ defaultVerificationPath).2 "u" "d" defaultInterval
    600).2 rfl
  exact ⟨isPlainAddress_shoutedAddress, hbefore, hafter, hread, hanswer⟩

end Override

end DeviceGrant
