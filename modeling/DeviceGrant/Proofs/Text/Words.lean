import DeviceGrant.Scope
import Mathlib.Data.List.Basic
set_option autoImplicit false

/-! # The words of a text

A word of a text is a run of characters that are not blank, as long as it can be: the text ends or
has a blank on both of its sides. `mem_words_iff` says that `words` lists exactly these. The first
blank of a text splits its words into those before and those behind it, and the text up to there is
one word or none; both directions follow from this split.

A text joins its words with blanks, and it joins no other words: `joins_iff` settles what `words`
lists together with the order and the repetitions. -/

namespace DeviceGrant.Text

variable {c : Char} {cs ds w : List Char}

/-! ## Splitting at a blank -/

theorem wordChars_cons_of_blank (h : isBlank c = true) : wordChars (c :: cs) = wordChars cs := by
  rw [wordChars, if_pos h]

theorem wordChars_cons_ne_nil (h : isBlank c = false) : wordChars (c :: cs) ≠ [] := by
  rw [wordChars, h, if_neg (by decide)]
  unfold startWord
  split
  · split <;> simp
  · simp

/-- No word goes over a blank. -/
theorem wordChars_append_cons (h : isBlank c = true) :
    wordChars (cs ++ c :: ds) = wordChars cs ++ wordChars ds := by
  induction cs with
  | nil => exact wordChars_cons_of_blank h
  | cons a cs ih =>
    rw [List.cons_append]
    cases ha : isBlank a with
    | true => rw [wordChars_cons_of_blank ha, wordChars_cons_of_blank ha, ih]
    | false =>
      rw [wordChars, wordChars, ha, ih, if_neg (by decide), if_neg (by decide)]
      cases cs with
      | nil => cases hws : wordChars ds <;> simp [startWord, wordChars, h]
      | cons d cs =>
        cases hws : wordChars (d :: cs) with
        | cons w ws => cases hd : isBlank d <;> simp [startWord, hd]
        | nil =>
          -- Without a word the rest starts with a blank.
          have hd : isBlank d = true := by
            by_contra hd
            exact wordChars_cons_ne_nil (by simpa using hd) hws
          cases hds : wordChars ds <;> simp [startWord, hd]

theorem wordChars_of_forall_not_blank (hne : cs ≠ []) (h : ∀ c ∈ cs, isBlank c = false) :
    wordChars cs = [cs] := by
  induction cs with
  | nil => exact absurd rfl hne
  | cons c cs ih =>
    rw [wordChars, h c (by simp), if_neg (by decide)]
    cases cs with
    | nil => rfl
    | cons d cs =>
      rw [ih (by simp) fun a ha => h a (List.mem_cons_of_mem c ha)]
      simp [startWord, h d (by simp)]

/-! ## Runs -/

/-- A run of characters that are not blank, between blanks or the ends. -/
structure IsRun (cs w : List Char) : Prop where
  nonempty : w ≠ []
  notBlank : ∀ c ∈ w, isBlank c = false
  between : ∃ before after, cs = before ++ (w ++ after) ∧
    (∀ c, before.getLast? = some c → isBlank c = true) ∧
    ∀ c, after.head? = some c → isBlank c = true

theorem mem_wordChars_of_isRun (h : IsRun cs w) : w ∈ wordChars cs := by
  obtain ⟨before, after, rfl, hbefore, hafter⟩ := h.between
  have hword : w ∈ wordChars (w ++ after) := by
    cases after with
    | nil =>
      rw [List.append_nil, wordChars_of_forall_not_blank h.nonempty h.notBlank]
      simp
    | cons b after =>
      rw [wordChars_append_cons (hafter b rfl),
        wordChars_of_forall_not_blank h.nonempty h.notBlank]
      simp
  rcases List.eq_nil_or_concat before with rfl | ⟨start, b, rfl⟩
  · exact hword
  · rw [List.concat_eq_append, List.append_assoc, List.singleton_append,
      wordChars_append_cons (hbefore b (by simp))]
    exact List.mem_append_right _ hword

/-- What stands behind a blank keeps its runs. -/
theorem IsRun.append_cons (h : IsRun ds w) (hc : isBlank c = true) : IsRun (cs ++ c :: ds) w where
  nonempty := h.nonempty
  notBlank := h.notBlank
  between := by
    obtain ⟨before, after, rfl, hbefore, hafter⟩ := h.between
    refine ⟨cs ++ c :: before, after, by simp, fun b hb => ?_, hafter⟩
    cases before with
    | nil =>
      obtain rfl : c = b := by simpa using hb
      exact hc
    | cons d before => exact hbefore b (by simpa [List.getLast?_append] using hb)

theorem isRun_of_mem_wordChars (cs : List Char) (h : w ∈ wordChars cs) : IsRun cs w := by
  cases hfirst : cs.find? isBlank with
  | none =>
    have hcs : ∀ c ∈ cs, isBlank c = false := by simpa using hfirst
    have hne : cs ≠ [] := by
      rintro rfl
      cases h
    obtain rfl : w = cs := by simpa [wordChars_of_forall_not_blank hne hcs] using h
    exact ⟨hne, hcs, [], [], by simp, by simp, by simp⟩
  | some b =>
    obtain ⟨hb, xs, ys, heq, hxs⟩ := List.find?_eq_some_iff_append.1 hfirst
    have hxs : ∀ c ∈ xs, isBlank c = false := by simpa using hxs
    rw [heq, wordChars_append_cons hb, List.mem_append] at h
    rw [heq]
    rcases h with h | h
    · have hne : xs ≠ [] := by
        rintro rfl
        cases h
      obtain rfl : w = xs := by simpa [wordChars_of_forall_not_blank hne hxs] using h
      exact ⟨hne, hxs, [], b :: ys, by simp, by simp, by simpa using hb⟩
    · -- The words behind the first blank are those of a shorter text.
      exact (isRun_of_mem_wordChars ys h).append_cons hb
termination_by cs.length
decreasing_by
  simp only [heq, List.length_append, List.length_cons]
  omega

theorem mem_wordChars_iff : w ∈ wordChars cs ↔ IsRun cs w :=
  ⟨isRun_of_mem_wordChars cs, mem_wordChars_of_isRun⟩

/-! ## Words -/

/-- A word of a text: a run of characters that are not blank, as long as it can be. -/
def IsWord (s word : String) : Prop := IsRun s.toList word.toList

theorem mem_words_iff {s word : String} : word ∈ words s ↔ IsWord s word := by
  rw [IsWord, ← mem_wordChars_iff, words, List.mem_map]
  constructor
  · rintro ⟨cs, hcs, rfl⟩
    rwa [String.toList_ofList]
  · intro h
    exact ⟨word.toList, h, String.ofList_toList⟩

/-- A text with nothing but blanks has no words, and no other text. -/
theorem words_eq_nil_iff {s : String} : words s = [] ↔ ∀ c ∈ s.toList, isBlank c = true := by
  have hfilter : s.toList.filter (fun c => !isBlank c) = [] ↔
      ∀ c ∈ s.toList, isBlank c = true := by simp
  rw [words, List.map_eq_nil_iff, ← hfilter, ← flatten_wordChars, List.flatten_eq_nil_iff]
  constructor
  · intro h
    simp [h]
  · intro h
    refine List.eq_nil_iff_forall_not_mem.2 fun w hw => ?_
    exact wordChars_ne_nil hw (h w hw)

/-! ## Texts that join words -/

/-- Words with any blanks around them, and at least one blank between two of them. -/
inductive JoinsChars : List (List Char) → List Char → Prop
  | nil {blanks : List Char} : (∀ c ∈ blanks, isBlank c = true) → JoinsChars [] blanks
  | cons {blanks word rest : List Char} {words : List (List Char)} :
    (∀ c ∈ blanks, isBlank c = true) → word ≠ [] → (∀ c ∈ word, isBlank c = false) →
    (∀ c, rest.head? = some c → isBlank c = true) → JoinsChars words rest →
    JoinsChars (word :: words) (blanks ++ (word ++ rest))

/-- A text that joins words with blanks. -/
def Joins (tokens : List String) (s : String) : Prop :=
  JoinsChars (tokens.map String.toList) s.toList

/-- Blanks in front of a text do not matter to its words. -/
theorem wordChars_append_of_blanks (h : ∀ c ∈ ds, isBlank c = true) :
    wordChars (ds ++ cs) = wordChars cs := by
  induction ds with
  | nil => rfl
  | cons d ds ih =>
    rw [List.cons_append, wordChars_cons_of_blank (h d (by simp)),
      ih fun c hc => h c (List.mem_cons_of_mem d hc)]

theorem JoinsChars.wordChars_eq {words : List (List Char)} (h : JoinsChars words cs) :
    wordChars cs = words := by
  induction h with
  | @nil blanks hblanks =>
    have hblank : wordChars (blanks ++ []) = wordChars [] := wordChars_append_of_blanks hblanks
    rwa [List.append_nil] at hblank
  | @cons blanks word rest words hblanks hne hword hrest _ ih =>
    rw [wordChars_append_of_blanks hblanks]
    cases rest with
    | nil =>
      rw [List.append_nil, wordChars_of_forall_not_blank hne hword, ← ih]
      rfl
    | cons b rest =>
      have hb := hrest b rfl
      rw [wordChars_append_cons hb, wordChars_of_forall_not_blank hne hword, ← ih,
        wordChars_cons_of_blank hb]
      rfl

theorem JoinsChars.cons_blank {words : List (List Char)} (h : JoinsChars words cs)
    (hc : isBlank c = true) : JoinsChars words (c :: cs) := by
  cases h with
  | nil hblanks => exact .nil (List.forall_mem_cons.2 ⟨hc, hblanks⟩)
  | cons hblanks hne hword hrest hjoins =>
    exact .cons (List.forall_mem_cons.2 ⟨hc, hblanks⟩) hne hword hrest hjoins

theorem JoinsChars.append {words : List (List Char)} (hne : w ≠ [])
    (hword : ∀ a ∈ w, isBlank a = false) (hrest : ∀ a, cs.head? = some a → isBlank a = true)
    (h : JoinsChars words cs) : JoinsChars (w :: words) (w ++ cs) := by
  have hjoins := JoinsChars.cons (List.forall_mem_nil _) hne hword hrest h
  rwa [List.nil_append] at hjoins

/-- Without a blank in front, the text starts with its first word. -/
theorem JoinsChars.exists_append {words : List (List Char)} (h : JoinsChars (w :: words) (c :: cs))
    (hc : isBlank c = false) : ∃ rest, c :: cs = w ++ rest ∧ (∀ a ∈ w, isBlank a = false) ∧
      (∀ a, rest.head? = some a → isBlank a = true) ∧ JoinsChars words rest := by
  generalize htext : c :: cs = text at h
  cases h with
  | @cons blanks _ rest _ hblanks hne hword hrest hjoins =>
    cases blanks with
    | nil => exact ⟨rest, rfl, hword, hrest, hjoins⟩
    | cons b blanks =>
      obtain ⟨rfl, _⟩ := List.cons.inj htext
      simp [hblanks c (by simp)] at hc

theorem joinsChars_wordChars (cs : List Char) : JoinsChars (wordChars cs) cs := by
  induction cs with
  | nil => exact .nil (by simp)
  | cons c cs ih =>
    cases hc : isBlank c with
    | true =>
      rw [wordChars_cons_of_blank hc]
      exact ih.cons_blank hc
    | false =>
      have hsingle : ∀ a ∈ [c], isBlank a = false := by simpa using hc
      -- A blank or the end behind the character makes it a word.
      have halone : (∀ a, cs.head? = some a → isBlank a = true) →
          JoinsChars ([c] :: wordChars cs) (c :: cs) :=
        fun hrest => .append (List.cons_ne_nil c []) hsingle hrest ih
      rw [wordChars, hc, if_neg (by decide)]
      cases cs with
      | nil => exact halone (by simp)
      | cons d cs =>
        cases hd : isBlank d with
        | true =>
          have halone := halone (by simpa using hd)
          cases hws : wordChars (d :: cs) with
          | nil => simpa [startWord, hws] using halone
          | cons w ws => simpa [startWord, hd, hws] using halone
        | false =>
          cases hws : wordChars (d :: cs) with
          | nil => exact absurd hws (wordChars_cons_ne_nil hd)
          | cons w ws =>
            rw [hws] at ih
            obtain ⟨rest, htext, hword, hrest, hjoins⟩ := ih.exists_append hd
            have hstart : startWord c (d :: cs) (w :: ws) = (c :: w) :: ws := by
              simp [startWord, hd]
            rw [hstart, htext]
            exact .append (List.cons_ne_nil c w) (List.forall_mem_cons.2 ⟨hc, hword⟩) hrest hjoins

/-- A text is read as the words that it joins, and it joins what it is read as. -/
theorem joins_iff {tokens : List String} {s : String} : Joins tokens s ↔ words s = tokens := by
  constructor
  · intro h
    rw [words, JoinsChars.wordChars_eq h]
    simp [Function.comp_def]
  · rintro rfl
    have hwords : (words s).map String.toList = wordChars s.toList := by
      simp [words, Function.comp_def]
    rw [Joins, hwords]
    exact joinsChars_wordChars s.toList

end DeviceGrant.Text

namespace DeviceGrant.Scope

theorem mem_parse_iff {s word : String} : word ∈ parse s ↔ Text.IsWord s word := by
  rw [parse, mem_ofList, Text.mem_words_iff]

theorem isEmpty_parse_iff {s : String} :
    (parse s).isEmpty = true ↔ ∀ c ∈ s.toList, Text.isBlank c = true := by
  rw [isEmpty_iff, ← Text.words_eq_nil_iff, List.eq_nil_iff_forall_not_mem]
  simp only [parse, mem_ofList]

end DeviceGrant.Scope
