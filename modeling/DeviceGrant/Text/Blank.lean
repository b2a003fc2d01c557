set_option autoImplicit false

/-! # Blank characters, trimming and words

Scope lists, trimmed numbers and trimmed addresses all use one notion of white space: the
characters with the Unicode property `White_Space`, and the four information separators
U+001C to U+001F beside them. Zero-width characters (U+200B, U+FEFF) and U+180E are not blank.

`trim` takes blanks off both ends; `words` lists the maximal runs of other characters. The
statements below say what the two may return: no word is empty or holds a blank, and the words
of a text keep all of its other characters in order. -/

namespace DeviceGrant.Text

/-- The 29 characters that separate words. -/
def isBlank (c : Char) : Bool :=
  let n := c.toNat
  (9 ≤ n && n ≤ 13) || (28 ≤ n && n ≤ 32) || n == 0x85 || n == 0xA0 || n == 0x1680 ||
    (0x2000 ≤ n && n ≤ 0x200A) || n == 0x2028 || n == 0x2029 || n == 0x202F || n == 0x205F ||
    n == 0x3000

/-- Characters without the blanks at their front. -/
def trimStart (cs : List Char) : List Char := cs.dropWhile isBlank

/-- Characters without the blanks at their end. -/
def trimEnd (cs : List Char) : List Char := (cs.reverse.dropWhile isBlank).reverse

/-- Characters without the blanks at both ends. -/
def trimChars (cs : List Char) : List Char := trimEnd (trimStart cs)

/-- A text without the blanks at both ends. -/
def trim (s : String) : String := String.ofList (trimChars s.toList)

/-- The words of `c :: cs`, where `c` is not blank and `ws` are the words of `cs`: `c` joins the
first word unless a blank follows it. -/
def startWord (c : Char) (cs : List Char) (ws : List (List Char)) : List (List Char) :=
  match cs, ws with
  | d :: _, w :: ws => if isBlank d then [c] :: w :: ws else (c :: w) :: ws
  | _, ws => [c] :: ws

/-- The maximal runs of characters that are not blank, in order. -/
def wordChars : List Char → List (List Char)
  | [] => []
  | c :: cs => if isBlank c then wordChars cs else startWord c cs (wordChars cs)

/-- The words of a text, in order and with repetitions. -/
def words (s : String) : List String := (wordChars s.toList).map String.ofList

/-! ## What words are made of -/

/-- Every word of `startWord` is an old one, or `c` alone or before an old one. -/
theorem mem_startWord {c : Char} {cs w : List Char} {ws : List (List Char)}
    (h : w ∈ startWord c cs ws) : w ∈ ws ∨ ∃ v, w = c :: v ∧ (v = [] ∨ v ∈ ws) := by
  unfold startWord at h
  split at h
  · split at h <;> grind
  · grind

theorem flatten_startWord (c : Char) (cs : List Char) (ws : List (List Char)) :
    (startWord c cs ws).flatten = c :: ws.flatten := by
  unfold startWord
  split
  · split <;> simp
  · simp

theorem wordChars_ne_nil {cs w : List Char} (h : w ∈ wordChars cs) : w ≠ [] := by
  induction cs generalizing w with
  | nil => simp [wordChars] at h
  | cons c cs ih =>
    by_cases hc : isBlank c
    · exact ih (by simpa [wordChars, hc] using h)
    · rcases mem_startWord (by simpa [wordChars, hc] using h) with h | ⟨v, rfl, _⟩
      · exact ih h
      · simp

/-- Nothing but blanks is lost between the words. -/
theorem flatten_wordChars (cs : List Char) :
    (wordChars cs).flatten = cs.filter (fun c => !isBlank c) := by
  induction cs with
  | nil => rfl
  | cons c cs ih => by_cases hc : isBlank c <;> simp [wordChars, hc, ih, flatten_startWord]

end DeviceGrant.Text
