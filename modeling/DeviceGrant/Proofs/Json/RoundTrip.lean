import DeviceGrant.Proofs.Json.Token
set_option autoImplicit false

/-! # Reading written values

A value without doubles is read back from its compact form when its whole numbers keep within the
limit, and is not read at all when one of them does not: `read?_toText`. Both halves are one
statement, proved along the three readers (`readValue_write`, `readItems_write`,
`readEntries_write`), whose common bound decreases with every value. -/

namespace DeviceGrant

namespace Json

/-! ## Values that can be read back -/

mutual
/-- Whether every whole number in a value is written with at most `limit` digits. -/
def fits (limit : Nat) : Json → Bool
  | int n => digitCount n ≤ limit
  | list vs => itemsFit limit vs
  | object es => entriesFit limit es
  | _ => true

/-- Whether all whole numbers in a list of values fit. -/
def itemsFit (limit : Nat) : List Json → Bool
  | [] => true
  | v :: vs => fits limit v && itemsFit limit vs

/-- Whether all whole numbers in the values of entries fit. -/
def entriesFit (limit : Nat) : List (String × Json) → Bool
  | [] => true
  | (_, v) :: es => fits limit v && entriesFit limit es
end

mutual
/-- Whether a value holds no double, and at most `depth` lists and objects stand inside each
other. -/
def isPlain : Nat → Json → Bool
  | _, float _ => false
  | 0, list _ => false
  | 0, object _ => false
  | depth + 1, list vs => areItemsPlain depth vs
  | depth + 1, object es => areEntriesPlain depth es
  | _, _ => true

/-- Whether all values of a list are plain. -/
def areItemsPlain (depth : Nat) : List Json → Bool
  | [] => true
  | v :: vs => isPlain depth v && areItemsPlain depth vs

/-- Whether all values of entries are plain. -/
def areEntriesPlain (depth : Nat) : List (String × Json) → Bool
  | [] => true
  | (_, v) :: es => isPlain depth v && areEntriesPlain depth es
end

variable {limit depth : Nat} {v : Json} {vs : List Json} {es : List (String × Json)}
  {rest : List Char}

@[simp] theorem areItemsPlain_cons :
    areItemsPlain depth (v :: vs) = true ↔ v.isPlain depth = true ∧ areItemsPlain depth vs = true := by
  simp [areItemsPlain]

@[simp] theorem areEntriesPlain_cons {k : String} :
    areEntriesPlain depth ((k, v) :: es) = true ↔
      v.isPlain depth = true ∧ areEntriesPlain depth es = true := by
  simp [areEntriesPlain]

/-! ## Between two values -/

theorem endsValue_writeItems : EndsValue (writeItems false vs ++ rest) := by
  cases vs <;> simp [writeItems, EndsValue]

theorem endsValue_writeEntries : EndsValue (writeEntries false es ++ rest) := by
  cases es <;> simp [writeEntries, EndsValue]

theorem skipSpace_cons {c : Char} {cs : List Char}
    (h : (c = ' ' || c = '\n' || c = '\r' || c = '\t') = false) :
    skipSpace (c :: cs) = c :: cs := by
  rw [skipSpace, List.dropWhile_cons_of_neg (by simpa using h)]

/-- The characters with which a written value begins. -/
def startsValue (c : Char) : Bool :=
  c.isDigit || ['-', '"', '[', '\x7b', 't', 'f', 'n'].contains c

theorem exists_write_eq_cons (h : v.isPlain depth = true) :
    ∃ c cs, v.write false = c :: cs ∧ startsValue c = true := by
  cases v with
  | null => exact ⟨_, _, rfl, rfl⟩
  | bool b => cases b <;> exact ⟨_, _, rfl, rfl⟩
  | int n =>
    obtain ⟨c, cs, hcs, hc⟩ := exists_writeInt_eq_cons n
    refine ⟨c, cs, hcs, ?_⟩
    rcases hc with rfl | hc
    · rfl
    · simp [startsValue, hc]
  | float x => simp [isPlain] at h
  | text s => exact ⟨_, _, rfl, rfl⟩
  | list vs => cases vs <;> exact ⟨_, _, rfl, rfl⟩
  | object es => rcases es with _ | ⟨⟨k, v⟩, es⟩ <;> exact ⟨_, _, rfl, rfl⟩

/-- A written value starts with no blank and with no closing bracket. -/
theorem write_append_eq_cons (rest : List Char) (h : v.isPlain depth = true) :
    ∃ c cs, v.write false ++ rest = c :: cs ∧ c ≠ ']' ∧
      skipSpace (v.write false ++ rest) = c :: cs := by
  obtain ⟨c, cs, hcs, hc⟩ := exists_write_eq_cons h
  refine ⟨c, cs ++ rest, by rw [hcs, List.cons_append], ?_, ?_⟩
  · rintro rfl
    exact absurd hc (by decide)
  · rw [hcs, List.cons_append]
    refine skipSpace_cons (Bool.eq_false_iff.2 fun hblank => ?_)
    have hcases : c = ' ' ∨ c = '\n' ∨ c = '\r' ∨ c = '\t' := by
      simpa [or_assoc] using hblank
    rcases hcases with rfl | rfl | rfl | rfl <;> exact absurd hc (by decide)

theorem skipSpace_write (rest : List Char) (h : v.isPlain depth = true) :
    skipSpace (v.write false ++ rest) = v.write false ++ rest := by
  obtain ⟨c, cs, hcs, _, hskip⟩ := write_append_eq_cons rest h
  rw [hskip, hcs]

/-! ## The three readers -/

variable {fuel : Nat}

theorem readValue_of_numeral {c : Char} {cs : List Char} (hc : c = '-' ∨ c.isDigit = true) :
    readValue limit (fuel + 1) depth (c :: cs) = readNumber limit (c :: cs) := by
  conv => lhs; unfold readValue
  split
  case h_8 => rfl
  all_goals
    next heq =>
      obtain ⟨rfl, _⟩ := List.cons.inj heq
      exact absurd hc (by decide)

theorem readValue_writeInt (n : Int) (h : EndsValue rest) :
    readValue limit (fuel + 1) depth (writeInt n ++ rest) =
      if digitCount n ≤ limit then some (int n, rest) else none := by
  rw [← readNumber_writeInt limit n h]
  obtain ⟨c, cs, hcs, hc⟩ := exists_writeInt_eq_cons n
  rw [hcs, List.cons_append, readValue_of_numeral hc]

theorem readValue_writeText (s : String) :
    readValue limit (fuel + 1) depth (writeText false s ++ rest) = some (text s, rest) := by
  rw [writeText, List.cons_append, List.cons_append, List.append_assoc, readValue]
  simp [readChars_flatMap, String.ofList_toList]

/-- The opening bracket of a list that has items. -/
theorem readValue_openList {cs : List Char} (hskip : skipSpace cs = cs)
    (hitem : ∀ after, cs ≠ ']' :: after) :
    readValue limit (fuel + 1) (depth + 1) ('[' :: cs) =
      (readItems limit fuel depth cs).map fun (vs, rest) => (list vs, rest) := by
  rw [readValue, hskip]
  split
  · exact absurd rfl (hitem _)
  · rfl

/-- The opening brace of an object that has entries. -/
theorem readValue_openObject (k : String) (cs : List Char) :
    readValue limit (fuel + 1) (depth + 1) ('\x7b' :: (writeText false k ++ cs)) =
      (readEntries limit fuel depth (writeText false k ++ cs)).map
        fun (es, rest) => (object es, rest) := by
  rw [readValue, writeText, List.cons_append, List.cons_append, skipSpace_cons (by decide)]
  rfl

mutual
/-- The induction is on the bound, which shrinks with every value that is read. -/
theorem readValue_write (j : Json) (fuel depth : Nat) (rest : List Char)
    (hplain : j.isPlain depth = true) (hfuel : (j.write false).length < fuel)
    (hrest : EndsValue rest) :
    readValue limit fuel depth (j.write false ++ rest) =
      if j.fits limit then some (j, rest) else none := by
  obtain ⟨fuel, rfl⟩ : ∃ n, fuel = n + 1 := ⟨fuel - 1, by omega⟩
  match j, depth, hplain with
  | null, _, _ => rfl
  | bool true, _, _ => rfl
  | bool false, _, _ => rfl
  | float x, _, hplain => simp [isPlain] at hplain
  | int n, _, _ =>
    rw [write, readValue_writeInt n hrest]
    simp [fits]
  | text s, _, _ =>
    rw [write, readValue_writeText]
    rfl
  | list [], depth + 1, _ => rfl
  | list (v :: vs), depth + 1, hplain =>
    have hboth : v.isPlain depth = true ∧ areItemsPlain depth vs = true := by
      simpa [isPlain] using hplain
    have hitems := readItems_write v vs fuel depth rest hboth.1 hboth.2
      (by simpa [write] using hfuel)
    obtain ⟨c, cs, hcs, hc, _⟩ :=
      write_append_eq_cons (writeItems false vs ++ rest) hboth.1
    rw [write, List.cons_append, List.cons_append, List.append_assoc,
      readValue_openList (skipSpace_write _ hboth.1) (fun after heq => ?_), hitems]
    · by_cases hfit : itemsFit limit (v :: vs) = true <;> simp [fits, hfit]
    · rw [hcs] at heq
      exact hc (List.cons.inj heq).1
  | object [], depth + 1, _ => rfl
  | object ((k, v) :: es), depth + 1, hplain =>
    have hboth : v.isPlain depth = true ∧ areEntriesPlain depth es = true := by
      simpa [isPlain] using hplain
    have hentries := readEntries_write k v es fuel depth rest hboth.1 hboth.2
      (by simp [write] at hfuel; omega)
    rw [write, List.append_assoc, List.append_assoc, List.cons_append, List.cons_append,
      readValue_openObject, hentries]
    by_cases hfit : entriesFit limit ((k, v) :: es) = true <;> simp [fits, hfit]
termination_by fuel

theorem readItems_write (v : Json) (vs : List Json) (fuel depth : Nat) (rest : List Char)
    (hv : v.isPlain depth = true) (hvs : areItemsPlain depth vs = true)
    (hfuel : (v.write false).length + (writeItems false vs).length < fuel) :
    readItems limit fuel depth (v.write false ++ (writeItems false vs ++ rest)) =
      if itemsFit limit (v :: vs) then some (v :: vs, rest) else none := by
  obtain ⟨fuel, rfl⟩ : ∃ n, fuel = n + 1 := ⟨fuel - 1, by omega⟩
  have hfirst := readValue_write v fuel depth (writeItems false vs ++ rest) hv
    (by cases vs <;> simp [writeItems] at hfuel <;> omega) endsValue_writeItems
  rw [readItems, hfirst]
  cases hfit : v.fits limit with
  | false => simp [itemsFit, hfit]
  | true =>
    cases vs with
    | nil => simp [itemsFit, hfit, writeItems, skipSpace]
    | cons w ws =>
      obtain ⟨hw, hws⟩ := areItemsPlain_cons.1 hvs
      have hothers := readItems_write w ws fuel depth rest hw hws
        (by simp [writeItems] at hfuel; omega)
      have hcomma : skipSpace (writeItems false (w :: ws) ++ rest) =
          ',' :: (w.write false ++ (writeItems false ws ++ rest)) := by
        simp [writeItems, skipSpace]
      have hfits : itemsFit limit (v :: w :: ws) = itemsFit limit (w :: ws) := by
        rw [itemsFit, hfit, Bool.true_and]
      simp only [↓reduceIte, Option.bind_eq_bind, Option.bind_some, hcomma, skipSpace_write _ hw,
        hothers, hfits]
      cases itemsFit limit (w :: ws) <;> rfl
termination_by fuel

theorem readEntries_write (k : String) (v : Json) (es : List (String × Json)) (fuel depth : Nat)
    (rest : List Char) (hv : v.isPlain depth = true) (hes : areEntriesPlain depth es = true)
    (hfuel : (v.write false).length + (writeEntries false es).length < fuel) :
    readEntries limit fuel depth
        (writeText false k ++ ':' :: (v.write false ++ (writeEntries false es ++ rest))) =
      if entriesFit limit ((k, v) :: es) then some ((k, v) :: es, rest) else none := by
  obtain ⟨fuel, rfl⟩ : ∃ n, fuel = n + 1 := ⟨fuel - 1, by omega⟩
  have hfirst := readValue_write v fuel depth (writeEntries false es ++ rest) hv
    (by rcases es with _ | ⟨⟨l, w⟩, ws⟩ <;> simp [writeEntries] at hfuel <;> omega)
    endsValue_writeEntries
  have hcolon : ∀ cs, skipSpace (':' :: cs) = ':' :: cs := fun cs => skipSpace_cons (by decide)
  rw [writeText, List.cons_append, List.cons_append, List.append_assoc, readEntries]
  simp only [List.singleton_append, readChars_flatMap, List.reverse_nil, List.nil_append,
    Option.bind_eq_bind, Option.bind_some, hcolon, skipSpace_write _ hv, hfirst,
    String.ofList_toList]
  cases hfit : v.fits limit with
  | false => simp [entriesFit, hfit]
  | true =>
    rcases es with _ | ⟨⟨l, w⟩, ws⟩
    · simp [entriesFit, hfit, writeEntries, skipSpace]
    · obtain ⟨hw, hws⟩ := areEntriesPlain_cons.1 hes
      have hothers := readEntries_write l w ws fuel depth rest hw hws
        (by simp [writeEntries] at hfuel; omega)
      have hcomma : skipSpace (writeEntries false ((l, w) :: ws) ++ rest) =
          ',' :: (writeText false l ++
            ':' :: (w.write false ++ (writeEntries false ws ++ rest))) := by
        simp [writeEntries, skipSpace]
      have hquote : ∀ cs, skipSpace (writeText false l ++ cs) = writeText false l ++ cs :=
        fun cs => skipSpace_cons (by decide)
      have hfits : entriesFit limit ((k, v) :: (l, w) :: ws) =
          entriesFit limit ((l, w) :: ws) := by
        rw [entriesFit, hfit, Bool.true_and]
      simp only [↓reduceIte, Option.bind_some, hcomma, hquote, hothers, hfits]
      cases entriesFit limit ((l, w) :: ws) <;> rfl
termination_by fuel
end

/-- What was written is read back exactly if its whole numbers fit. -/
theorem read?_toText {limits : Limits} {j : Json} (hplain : j.isPlain limits.depth = true) :
    read? limits j.toText = if j.fits limits.numeral then some j else none := by
  have hread : readValue limits.numeral ((j.write false).length + 1) limits.depth
      (j.write false ++ []) = if j.fits limits.numeral then some (j, []) else none :=
    readValue_write j _ limits.depth [] hplain (Nat.lt_succ_self _) (by simp [EndsValue])
  have hskip := skipSpace_write [] hplain
  rw [List.append_nil] at hread hskip
  rw [read?, toText, String.toList_ofList, hskip, hread]
  cases j.fits limits.numeral <;> rfl

end Json

end DeviceGrant
