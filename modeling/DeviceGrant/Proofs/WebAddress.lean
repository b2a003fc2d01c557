import DeviceGrant.Proofs.Override
import Mathlib
set_option autoImplicit false

/-! # Accepted addresses, character for character

An address is checked by splitting it, and splitting cleans it first: controls and spaces in front
are dropped, and tabs and line ends everywhere. What is accepted is the address as it was, though.
So the cleaned text is a web address, with a scheme, two slashes and the start of a host
(`IsWebAddress`), and the accepted text is one up to what cleaning drops (`CleansToWeb`). It is one
itself if there is nothing to drop (`IsTidy`). -/

namespace DeviceGrant

/-! ## Web addresses -/

/-- The letters of `http` or `https`, in any case. -/
def IsWebWord (cs : List Char) : Prop :=
  cs.map Char.toLower = ['h', 't', 't', 'p'] ∨ cs.map Char.toLower = ['h', 't', 't', 'p', 's']

/-- A scheme of the web, a colon, two slashes and a character that does not end the host. -/
inductive IsWebAddress : List Char → Prop
  | intro {scheme : List Char} {c : Char} (rest : List Char) (web : IsWebWord scheme)
      (host : c ≠ '/' ∧ c ≠ '?' ∧ c ≠ '#') : IsWebAddress (scheme ++ ':' :: '/' :: '/' :: c :: rest)

/-- Whether a character is a tab or ends a line. -/
def isLineControl (c : Char) : Bool := c = '\t' || c = '\r' || c = '\n'

/-- A text that does not start with a control character or a space, and has no tabs and no line
ends. -/
structure IsTidy (cs : List Char) : Prop where
  start : ∀ c ∈ cs.head?, 0x20 < c.toNat
  inner : ∀ c ∈ cs, isLineControl c = false

/-- Controls or spaces, and behind them a web address into which tabs and line ends may be
strewn. -/
def CleansToWeb (cs : List Char) : Prop :=
  ∃ front body, cs = front ++ body ∧ (∀ c ∈ front, c.toNat ≤ 0x20) ∧
    (∀ c ∈ body.head?, 0x20 < c.toNat) ∧ IsWebAddress (body.filter fun c => !isLineControl c)

variable {cs front body scheme : List Char} {c : Char} {raw : Value} {s u : String}

/-! ## Schemes -/

/-- A character is a letter if its small form is one of these. -/
theorem isAlpha_of_toLower (h : c.toLower ∈ ['h', 't', 'p', 's']) : c.isAlpha = true := by
  have hsmall : ['h', 't', 'p', 's'].all Char.isLower = true := by decide
  rw [← Char.isLower_toLower_eq_isAlpha]
  exact List.all_eq_true.1 hsmall _ h

namespace IsWebWord

theorem isAlpha (h : IsWebWord cs) (hc : c ∈ cs) : c.isAlpha = true := by
  have hhttp : ∀ c ∈ ['h', 't', 't', 'p'], c ∈ ['h', 't', 'p', 's'] := by simp
  have hhttps : ∀ c ∈ ['h', 't', 't', 'p', 's'], c ∈ ['h', 't', 'p', 's'] := by simp
  have hlower : c.toLower ∈ cs.map Char.toLower := List.mem_map_of_mem hc
  rcases h with h | h
  · exact isAlpha_of_toLower (hhttp _ (h ▸ hlower))
  · exact isAlpha_of_toLower (hhttps _ (h ▸ hlower))

theorem colon_not_mem (h : IsWebWord cs) : ':' ∉ cs :=
  fun hmem => absurd (h.isAlpha hmem) (by decide)

theorem ne_nil (h : IsWebWord cs) : cs ≠ [] := by
  rintro rfl
  rcases h with h | h <;> cases h

instance : Decidable (IsWebWord cs) := inferInstanceAs (Decidable (_ ∨ _))

theorem isWebScheme_iff : Override.isWebScheme (cs.map Char.toLower) = true ↔ IsWebWord cs := by
  simp [Override.isWebScheme, IsWebWord]

end IsWebWord

/-- What stands before the first colon of a web address is its scheme. -/
theorem IsWebAddress.takeWhile (h : IsWebAddress cs) : IsWebWord (cs.takeWhile (· ≠ ':')) := by
  cases h with
  | @intro scheme c rest web host =>
    have hbefore : ∀ d ∈ scheme, decide (d ≠ ':') = true := by
      intro d hd
      simpa using ne_of_mem_of_not_mem hd web.colon_not_mem
    rw [List.takeWhile_append_of_pos hbefore, List.takeWhile_cons_of_neg (by simp),
      List.append_nil]
    exact web

theorem Text.cutFirst?_append {sep : Char} (h : sep ∉ front) :
    cutFirst? sep (front ++ sep :: body) = some (front, body) := by
  induction front with
  | nil => rw [List.nil_append, cutFirst?, if_pos rfl]
  | cons c front ih =>
    rw [List.mem_cons, not_or] at h
    rw [List.cons_append, cutFirst?, if_neg (Ne.symm h.1), ih h.2]
    rfl

namespace Url

/-- A scheme of the web is what stands before the first colon, its letters made small. -/
theorem splitScheme_eq_iff {rest : List Char} (hweb : Override.isWebScheme scheme = true) :
    splitScheme cs = (scheme, rest) ↔
      ∃ word, IsWebWord word ∧ word.map Char.toLower = scheme ∧ cs = word ++ ':' :: rest := by
  constructor
  · intro h
    have hempty : ([], cs) ≠ (scheme, rest) := by
      intro heq
      cases heq
      cases hweb
    unfold splitScheme at h
    split at h
    · next c word rest' hcut =>
      split at h
      · cases h
        exact ⟨c :: word, IsWebWord.isWebScheme_iff.1 hweb, rfl, (Text.eq_of_cutFirst? hcut).1⟩
      · exact absurd h hempty
    · exact absurd h hempty
  · rintro ⟨word, hword, rfl, rfl⟩
    have hchars : ∀ c ∈ word, isSchemeChar c = true := by
      intro c hc
      rw [isSchemeChar, Char.isAlphanum, hword.isAlpha hc]
      rfl
    unfold splitScheme
    rw [Text.cutFirst?_append hword.colon_not_mem]
    cases word with
    | nil => exact absurd rfl hword.ne_nil
    | cons c word =>
      have hstart := hword.isAlpha (List.mem_cons_self ..)
      have hmore : word.all isSchemeChar = true :=
        List.all_eq_true.2 fun d hd => hchars d (List.mem_cons_of_mem _ hd)
      simp only [hstart, hmore, Bool.and_self, if_true]

theorem takeWhile_host_ne_nil_iff {after : List Char} :
    (after.takeWhile fun c => !endsAuthority c) ≠ [] ↔
      ∃ c more, after = c :: more ∧ c ≠ '/' ∧ c ≠ '?' ∧ c ≠ '#' := by
  cases after with
  | nil => simp
  | cons c more =>
    cases hends : endsAuthority c with
    | true =>
      rw [List.takeWhile_cons_of_neg (by simp [hends])]
      simp only [endsAuthority, Bool.or_eq_true, decide_eq_true_eq] at hends
      refine iff_of_false (fun h => h rfl) ?_
      rintro ⟨_, _, ⟨⟩, hslash, hquestion, hhash⟩
      tauto
    | false =>
      rw [List.takeWhile_cons_of_pos (by simp [hends])]
      simp only [endsAuthority, Bool.or_eq_false_iff, decide_eq_false_iff_not] at hends
      exact iff_of_true (List.cons_ne_nil _ _) ⟨c, more, rfl, hends.1.1, hends.1.2, hends.2⟩

/-- The parts of a text that splits. -/
theorem parts_of_split {url : Url} (h : split cs = .ok url) :
    url.scheme = (splitScheme (clean cs)).1 ∧
      (url.authority ≠ [] ↔ ∃ c more, (splitScheme (clean cs)).2 = '/' :: '/' :: c :: more ∧
        c ≠ '/' ∧ c ≠ '?' ∧ c ≠ '#') := by
  unfold split at h
  generalize splitScheme (clean cs) = parts at h
  obtain ⟨scheme, rest⟩ := parts
  dsimp only at h ⊢
  split at h
  · next after =>
    cases hcheck : checkAuthority (after.takeWhile fun c => !endsAuthority c) with
    | error f =>
      rw [hcheck] at h
      cases h
    | ok checked =>
      rw [hcheck] at h
      cases h
      refine ⟨rfl, takeWhile_host_ne_nil_iff.trans ?_⟩
      simp only [List.cons.injEq, true_and]
  · next hnone =>
    cases h
    refine ⟨rfl, iff_of_false (fun hne => hne rfl) ?_⟩
    rintro ⟨c, more, rfl, _⟩
    exact hnone _ rfl

/-- What splits has a scheme of the web and an authority exactly if it is, cleaned, a web
address. -/
theorem isWeb_iff {url : Url} (h : split cs = .ok url) :
    Override.isWebScheme url.scheme = true ∧ url.authority ≠ [] ↔ IsWebAddress (clean cs) := by
  obtain ⟨hscheme, hauthority⟩ := parts_of_split h
  rw [hscheme, hauthority]
  constructor
  · rintro ⟨hweb, c, more, hrest, hhost⟩
    have hparts : splitScheme (clean cs) =
        ((splitScheme (clean cs)).1, '/' :: '/' :: c :: more) := Prod.ext rfl hrest
    obtain ⟨word, hword, _, hcs⟩ := (splitScheme_eq_iff hweb).1 hparts
    rw [hcs]
    exact .intro more hword hhost
  · intro haddress
    generalize clean cs = cleaned at haddress
    cases haddress with
    | @intro word c more hword hhost =>
      have hweb := IsWebWord.isWebScheme_iff.2 hword
      rw [(splitScheme_eq_iff hweb).2 ⟨word, hword, rfl, rfl⟩]
      exact ⟨hweb, c, more, rfl, hhost⟩

/-! ## Cleaning -/

theorem clean_eq (cs : List Char) : clean cs =
    (cs.dropWhile fun c => c.toNat ≤ 0x20).filter fun c => !isLineControl c := by
  rw [clean]
  refine List.filter_congr fun c _ => ?_
  simp only [isLineControl, Bool.not_or, ne_eq, decide_not]

end Url

theorem cleansToWeb_iff : CleansToWeb cs ↔ IsWebAddress (Url.clean cs) := by
  rw [Url.clean_eq]
  constructor
  · rintro ⟨front, body, rfl, hfront, hbody, haddress⟩
    have hdrop : ((front ++ body).dropWhile fun c => c.toNat ≤ 0x20) = body := by
      rw [List.dropWhile_append_of_pos (by simpa using hfront)]
      cases body with
      | nil => rfl
      | cons c body => exact List.dropWhile_cons_of_neg (by simpa using hbody c rfl)
    rw [hdrop]
    exact haddress
  · intro haddress
    refine ⟨cs.takeWhile fun c => c.toNat ≤ 0x20, cs.dropWhile fun c => c.toNat ≤ 0x20,
      (List.takeWhile_append_dropWhile ..).symm, fun c hc => ?_, fun c hc => ?_, haddress⟩
    · simpa using List.mem_takeWhile_imp hc
    · rw [← List.find?_not_eq_head?_dropWhile] at hc
      simpa using List.find?_some hc

/-- Of a tidy text nothing is dropped. -/
theorem IsTidy.clean_eq (h : IsTidy cs) : Url.clean cs = cs := by
  have hstart : (cs.dropWhile fun c => c.toNat ≤ 0x20) = cs := by
    cases cs with
    | nil => rfl
    | cons c cs => exact List.dropWhile_cons_of_neg (by simpa using h.start c rfl)
  rw [Url.clean_eq, hstart, List.filter_eq_self]
  intro c hc
  rw [h.inner c hc]
  rfl

namespace Override

/-! ## Accepted addresses -/

theorem absoluteUrl_some_iff_cleansToWeb :
    absoluteUrl raw = .ok (some u) ↔ (∃ s, raw = .text s ∧ Text.IsTrimmed s.toList u.toList) ∧
      CleansToWeb u.toList ∧ ¬ IsUnsplittable raw := by
  rw [absoluteUrl_some_iff, cleansToWeb_iff]
  constructor
  · rintro ⟨⟨htrimmed, hsplit, hweb, hauthority⟩, hbreaks⟩
    exact ⟨⟨_, rfl, htrimmed⟩, (Url.isWeb_iff hsplit).1 ⟨hweb, hauthority⟩, hbreaks⟩
  · rintro ⟨⟨s, rfl, htrimmed⟩, haddress, hbreaks⟩
    cases hsplit : Url.split u.toList with
    | error fault => exact absurd (.text htrimmed hsplit) hbreaks
    | ok url =>
      obtain ⟨hweb, hauthority⟩ := (Url.isWeb_iff hsplit).2 haddress
      exact ⟨.absolute htrimmed hsplit hweb hauthority, hbreaks⟩

/-- Which texts are accepted as a verification address, and what they are character for character.
A value is accepted exactly if it is a text that, trimmed, is a web address up to controls and
spaces in front and tabs and line ends anywhere, and that splits; the accepted text is the trimmed
one with all of these characters, and a client with this override is given it as it is. It is a web
address itself if it does not start with a control character and has no tab and no line end. -/
theorem accepted_address_cleans_to_web (raw : Value) (u : String) :
    (absoluteUrl raw = .ok (some u) ↔ (∃ s, raw = .text s ∧ Text.IsTrimmed s.toList u.toList) ∧
      CleansToWeb u.toList ∧ ¬ IsUnsplittable raw) ∧
    (absoluteUrl raw = .ok (some u) →
      (IsTidy u.toList → IsWebAddress u.toList) ∧
      ∀ client context path, client.verificationUriOverride = raw →
        (verificationUri client context path).value = .ok u) := by
  refine ⟨absoluteUrl_some_iff_cleansToWeb, fun h => ⟨fun htidy => ?_, ?_⟩⟩
  · have hcleans := (absoluteUrl_some_iff_cleansToWeb.1 h).2.1
    rwa [cleansToWeb_iff, htidy.clean_eq] at hcleans
  · rintro client context path rfl
    exact (resolve_eq_ok_iff _ _ _ _ _ rfl).2 (.inl h)

/-- A line end within the scheme, and a control character in front, are accepted and kept. -/
theorem untidy_address_accepted :
    absoluteUrl (.text "ht\ntp://host/x") = .ok (some "ht\ntp://host/x") ∧
    ¬ IsWebAddress "ht\ntp://host/x".toList ∧
    absoluteUrl (.text "\u0001http://host") = .ok (some "\u0001http://host") ∧
    ¬ IsWebAddress "\u0001http://host".toList := by
  refine ⟨by decide, fun h => ?_, by decide, fun h => ?_⟩
  · exact absurd h.takeWhile (by decide)
  · exact absurd h.takeWhile (by decide)

end Override

end DeviceGrant
