import DeviceGrant.Json.Reader
import DeviceGrant.Scope
import DeviceGrant.Table
import DeviceGrant.Value
set_option autoImplicit false

/-! # Validation of data from outside

Data that callers hand in, and the records read back from a shared store, are checked against the
structure they should have. A check gives either the value or every issue that it found, each with
its place and its kind. Checks of the parts of a structure are put together by `Checked.combine`,
which keeps the issues of all parts in the order of the fields.

Conversions are lenient where nothing is lost: a whole number may also come as a numeral, as a
boolean or as a fraction without places; a boolean may come as `0`, `1` or one of the usual words.
A text is never made from anything but a text (or its octets), and fields that a structure does
not have are passed over. -/

namespace DeviceGrant

/-! ## Issues -/

/-- One step from a structure to a part of it. -/
inductive PathStep
  | field (name : String)
  | index (i : Nat)
deriving DecidableEq, Repr

/-- What is wrong with a piece of data. -/
inductive Issue.Kind
  | missing
  | textExpected
  | textEncoding
  | scopeExpected
  | mappingExpected
  | structureExpected
  | attributesExpected
  | intExpected
  | intNotNumeral
  | intTooLong
  | intWithFraction
  | intNotFinite
  | boolExpected
  | boolNotWord
  | choiceExpected
  | constantExpected
  | tagMissing
  | tagUnknown
  | jsonMalformed
  | readOnly
  | rule (message : String)
deriving DecidableEq, Repr

/-- Something wrong at one place. -/
structure Issue where
  path : List PathStep
  kind : Issue.Kind
deriving DecidableEq, Repr

/-- The refusal of a whole structure, with at least one issue. -/
structure Rejection where
  subject : String
  issues : List Issue
deriving DecidableEq, Repr

/-- The first line of the report about a refused structure. -/
def Rejection.summary (r : Rejection) : String :=
  toString r.issues.length ++ " validation error" ++ (if r.issues.length = 1 then "" else "s") ++
    " for " ++ r.subject

/-! ## Checks and how they combine -/

/-- A checked value, or the issues in the order in which they are reported. -/
abbrev Checked (α : Type) := Except (List Issue) α

namespace Checked

variable {α β γ : Type}

/-- A single issue at the place of the check itself. -/
def issue (kind : Issue.Kind) : Checked α := .error [⟨[], kind⟩]

/-- Two checks side by side; the issues of both are kept. -/
def combine (f : α → β → γ) : Checked α → Checked β → Checked γ
  | .ok a, .ok b => .ok (f a b)
  | .ok _, .error e => .error e
  | .error e, .ok _ => .error e
  | .error e, .error e' => .error (e ++ e')

/-- A check of a part, its issues placed under the step to that part. -/
def under (step : PathStep) : Checked α → Checked α
  | .ok a => .ok a
  | .error e => .error (e.map fun i => { i with path := step :: i.path })

/-- Checks of all members. -/
def all : List (Checked α) → Checked (List α)
  | [] => .ok []
  | c :: cs => combine (· :: ·) c (all cs)

/-- The result of a check, its issues under the name of the structure. -/
def refuseAs (subject : String) : Checked α → Except Rejection α
  | .ok a => .ok a
  | .error e => .error ⟨subject, e⟩

end Checked

/-! ## Data as values -/

mutual
/-- A JSON value as a value; of two fields with one name the later holds. -/
def Value.ofJson : Json → Value
  | .null => .null
  | .bool b => .bool b
  | .int n => .int n
  | .float x => .float x
  | .text s => .text s
  | .list vs => .list (ofJsonItems vs)
  | .object es => .map (ofJsonEntries [] es)

/-- The values of a JSON list. -/
def Value.ofJsonItems : List Json → List Value
  | [] => []
  | v :: vs => Value.ofJson v :: ofJsonItems vs

/-- The entries of a JSON object, put after those before. -/
def Value.ofJsonEntries (before : List (Value × Value)) :
    List (String × Json) → List (Value × Value)
  | [] => before
  | (k, v) :: es => ofJsonEntries (Value.putEntry (.text k) (Value.ofJson v) before) es
end

/-! ## Checks of single values -/

namespace Check

/-- A text. -/
def text : Value → Checked String
  | .text s => .ok s
  | .bytes b => match Text.utf8Decode? b with
    | some s => .ok s
    | none => .issue .textEncoding
  | _ => .issue .textExpected

/-- A text or null. -/
def optionalText : Value → Checked (Option String)
  | .null => .ok none
  | v => (text v).map some

/-- The greatest whole number that a fraction without places may stand for. -/
def maxWord : Int := 9223372036854775807

/-- Whether a whole number fits a machine word. -/
def fitsWord (n : Int) : Bool := -maxWord - 1 ≤ n && n ≤ maxWord

/-- White space around numerals: every blank except the information separators. -/
def isNumeralSpace (c : Char) : Bool :=
  Text.isBlank c && !(0x1C ≤ c.toNat && c.toNat ≤ 0x1F)

/-- What is left of a plain numeral: the value of a sign and digits without extra zeros. -/
inductive Numeral
  | value (n : Int)
  | tooLong
  | malformed
deriving DecidableEq, Repr

/-- A sign that is at most a minus, then digits without extra zeros in front. -/
def plainNumeral (cs : List Char) : Numeral :=
  let (negative, ds) := match cs with
    | '-' :: ds => (true, ds)
    | ds => (false, ds)
  let digits := ds.takeWhile Char.isDigit
  if digits.isEmpty then .malformed
  else if digits.head? = some '0' && digits.length ≠ 1 then .malformed
  else if maxDigits < digits.length then .tooLong
  else if digits.length ≠ ds.length then .malformed
  else
    let n : Int := Text.digitsValue digits
    .value (if negative then -n else n)

/-- Characters after the zeros and underscores at their front, when they start with a zero: the
rest from its first other digit, or from the zero before a point. -/
def dropZeros (last : Char) : List Char → Option (List Char)
  | [] => some [last]
  | c :: cs =>
    if c = '0' || c = '_' then dropZeros c cs
    else if c.isDigit then some (c :: cs)
    else if c = '.' then some (last :: c :: cs)
    else none

/-- A numeral without zeros in front. -/
def withoutZeros : List Char → Option (List Char)
  | '0' :: cs => dropZeros '0' cs
  | c :: cs => if c.isDigit || c = '-' then some (c :: cs) else none
  | [] => none

/-- A numeral without a point that only zeros follow. -/
def withoutPlaces (cs : List Char) : List Char :=
  let whole := cs.takeWhile (· ≠ '.')
  if (cs.drop (whole.length + 1)).all (· = '0') then whole else cs

/-- Whether two underscores stand next to each other. -/
def hasDoubleUnderscore : List Char → Bool
  | '_' :: '_' :: _ => true
  | _ :: cs => hasDoubleUnderscore cs
  | [] => false

/-- A numeral without the single underscores between its characters. -/
def withoutUnderscores (cs : List Char) : List Char :=
  if cs.head? = some '_' || cs.getLast? = some '_' || hasDoubleUnderscore cs then cs
  else cs.filter (· ≠ '_')

/-- A numeral as the plain one that it stands for: without space around it, a plus sign, zeros in
front, places that are all zero, and underscores between digits. -/
def cleanNumeral (cs : List Char) : Option (List Char) := do
  let cs := ((cs.dropWhile isNumeralSpace).reverse.dropWhile isNumeralSpace).reverse
  let cs ← match cs with
    | '+' :: '-' :: _ => none
    | '+' :: rest => some rest
    | cs => some cs
  let cs ← withoutZeros cs
  return withoutUnderscores (withoutPlaces cs)

/-- The whole number of a numeral. -/
def numeral (s : String) : Checked Int :=
  let cs := s.toList
  let read := match plainNumeral cs with
    | .malformed => match cleanNumeral cs with
      | some clean => plainNumeral clean
      | none => .malformed
    | r => r
  match read with
  | .value n => .ok n
  | .tooLong => .issue .intTooLong
  | .malformed => .issue .intNotNumeral

/-- A whole number. -/
def int : Value → Checked Int
  | .int n => .ok n
  | .bool b => .ok (if b then 1 else 0)
  | .text s => numeral s
  | .float x =>
    if !x.isFinite then .issue .intNotFinite
    else match x.toInt? with
      | none => .issue .intWithFraction
      | some n => if fitsWord n then .ok n else .issue .intTooLong
  | _ => .issue .intExpected

/-- The boolean of a word in either case. -/
def boolWord? (s : String) : Option Bool :=
  let w := Text.lowerAscii s
  if ["0", "off", "f", "false", "n", "no"].contains w then some false
  else if ["1", "on", "t", "true", "y", "yes"].contains w then some true
  else none

/-- The boolean of a whole number. -/
def boolOfInt (n : Int) : Checked Bool :=
  if n = 0 then .ok false
  else if n = 1 then .ok true
  else if fitsWord n then .issue .boolNotWord
  else .issue .boolExpected

/-- A boolean. -/
def bool : Value → Checked Bool
  | .bool b => .ok b
  | .int n => boolOfInt n
  | .float x => match x.toInt? with
    | some n => boolOfInt n
    | none => .issue .boolExpected
  | .text s => match boolWord? s with
    | some b => .ok b
    | none => .issue .boolNotWord
  | _ => .issue .boolExpected

/-- The texts of a list, each under its index. -/
def texts (start : Nat) : List Value → Checked (List String)
  | [] => .ok []
  | v :: vs => .combine (· :: ·) (.under (.index start) (text v)) (texts (start + 1) vs)

/-- A scope: a list, pair list or set of texts. -/
def scope : Value → Checked Scope
  | .list vs => (texts 0 vs).map Scope.ofList
  | .tuple vs => (texts 0 vs).map Scope.ofList
  | .set vs => (texts 0 vs).map Scope.ofList
  | _ => .issue .scopeExpected

/-- The step to an entry of a mapping. -/
def entryStep (key : Value) : PathStep := .field key.toText

/-- The entries of a mapping from texts, each value checked under its key. -/
def entries {α : Type} (check : Value → Checked α) :
    List (Value × Value) → Checked (List (String × α))
  | [] => .ok []
  | (k, v) :: es =>
    .combine (· :: ·)
      (.combine (·, ·) (.under (entryStep k) (.under (.field "[key]") (text k)))
        (.under (entryStep k) (check v)))
      (entries check es)

/-- A mapping from texts. -/
def table {α : Type} (check : Value → Checked α) : Value → Checked (Table α)
  | .map es => (entries check es).map Table.ofList
  | _ => .issue .mappingExpected

/-- The entries of a structure. -/
def fields : Value → Checked (List (Value × Value))
  | .map es => .ok es
  | _ => .issue .structureExpected

/-- A field that must be there. -/
def required {α : Type} (name : String) (check : Value → Checked α)
    (es : List (Value × Value)) : Checked α :=
  .under (.field name) <| match Value.field? name es with
    | some v => check v
    | none => .issue .missing

/-- A field with a value for its absence. -/
def optional {α : Type} (name : String) (default : α) (check : Value → Checked α)
    (es : List (Value × Value)) : Checked α :=
  .under (.field name) <| match Value.field? name es with
    | some v => check v
    | none => .ok default

/-- A JSON text whose value is then checked. -/
def json {α : Type} (check : Value → Checked α) (s : String) : Checked α :=
  match Json.read? Json.Limits.data s with
  | some j => check (Value.ofJson j)
  | none => .issue .jsonMalformed

end Check

end DeviceGrant
