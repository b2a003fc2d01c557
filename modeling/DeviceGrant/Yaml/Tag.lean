import DeviceGrant.Calendar
import DeviceGrant.Number.Numeral
import DeviceGrant.Text.Octets
import DeviceGrant.Text.Split
set_option autoImplicit false

/-! # YAML tags

The tag of a node tells what kind of value it is. A plain scalar without a tag has the tag of the
first kind whose form its text has: a boolean word, a fraction, a whole number, the merge sign, an
empty value, a date or timestamp, the default sign, and else a text. -/

namespace DeviceGrant.Yaml

/-- What kind of value a node is. -/
inductive Tag
  | null
  | bool
  | int
  | float
  | binary
  | timestamp
  | orderedMap
  | pairs
  | set
  | text
  | list
  | map
  | merge
  | defaultValue
  /-- The tag `!`, which asks for the kind that the form of the node gives. -/
  | unspecific
  /-- A tag without meaning here. -/
  | unknown
deriving DecidableEq, Repr

namespace Tag

/-- What the tags of this format start with. -/
def family : List Char := "tag:yaml.org,2002:".toList

/-- The tag that is written in full. -/
def ofChars (cs : List Char) : Tag :=
  if cs = ['!'] then .unspecific
  else if family.isPrefixOf cs then
    match String.ofList (cs.drop family.length) with
    | "null" => .null
    | "bool" => .bool
    | "int" => .int
    | "float" => .float
    | "binary" => .binary
    | "timestamp" => .timestamp
    | "omap" => .orderedMap
    | "pairs" => .pairs
    | "set" => .set
    | "str" => .text
    | "seq" => .list
    | "map" => .map
    | "merge" => .merge
    | "value" => .defaultValue
    | _ => .unknown
  else .unknown

/-! ## The form of plain scalars -/

/-- A text in small letters, in capitals, or in small letters after one capital. -/
def spellings (w : String) : List String :=
  [w, w.toUpper, w.capitalize]

/-- Whether a text is a word for a boolean. -/
def isBoolWord (s : String) : Bool :=
  ["yes", "no", "true", "false", "on", "off"].any fun w => (spellings w).contains s

/-- Whether a text is a word for the empty value. -/
def isNullWord (s : String) : Bool := s = "" || s = "~" || (spellings "null").contains s

/-- A decimal digit or an underscore. -/
def isDigitOrGap (c : Char) : Bool := c.isDigit || c = '_'

/-- Digits and underscores that start with a digit. -/
def isDigits : List Char → Bool
  | c :: cs => c.isDigit && cs.all isDigitOrGap
  | [] => false

/-- One of the further parts of a number to base sixty. -/
def isSixtieth : List Char → Bool
  | [a] => a.isDigit
  | [a, b] => '0' ≤ a && a ≤ '5' && b.isDigit
  | _ => false

/-- Parts of a number to base sixty, of which there are at least two. -/
def isSexagesimal (cs : List Char) : Bool :=
  match Text.splitOn ':' cs with
  | first :: part :: parts => isDigits first && (part :: parts).all isSixtieth
  | _ => false

/-- An exponent with its sign, or nothing. -/
def isExponent : List Char → Bool
  | [] => true
  | e :: sign :: ds => (e = 'e' || e = 'E') && (sign = '-' || sign = '+') && !ds.isEmpty &&
      ds.all Char.isDigit
  | _ => false

/-- Places behind a point, and an exponent. -/
def arePlaces (cs : List Char) : Bool := isExponent (cs.dropWhile isDigitOrGap)

/-- Whether a text has the form of a fraction. -/
def isFloat (cs : List Char) : Bool :=
  let unsigned := (Number.Numeral.splitSign cs).2
  let isInfinity : Bool := match unsigned with
    | '.' :: w => (["inf", "Inf", "INF"].map String.toList).contains w
    | _ => false
  let isNan : Bool := match cs with
    | '.' :: w => (["nan", "NaN", "NAN"].map String.toList).contains w
    | _ => false
  let startsWithPoint : Bool := match cs with
    | '.' :: c :: rest => c.isDigit && arePlaces rest
    | _ => false
  let hasPoint : Bool := match Text.cutFirst? '.' unsigned with
    | some (whole, places) =>
      (isDigits whole && arePlaces places) || (isSexagesimal whole && places.all isDigitOrGap)
    | none => false
  isInfinity || isNan || startsWithPoint || hasPoint

/-- Whether a text has the form of a whole number. -/
def isInt (cs : List Char) : Bool :=
  let unsigned := (Number.Numeral.splitSign cs).2
  match unsigned with
  | '0' :: 'b' :: ds => !ds.isEmpty && ds.all fun c => c = '0' || c = '1' || c = '_'
  | '0' :: 'x' :: ds => !ds.isEmpty && ds.all fun c => (Text.hexValue? c).isSome || c = '_'
  | '0' :: ds => ds.all fun c => ('0' ≤ c && c ≤ '7') || c = '_'
  | ds => isDigits ds || isSexagesimal ds

/-- The parts of a written date or timestamp. -/
structure Moment where
  year : Nat
  month : Nat
  day : Nat
  time : Option (Nat × Nat × Nat × List Char × Option Int)

/-- A number of one or two digits before a character, and the rest behind that character. -/
def upToTwo? (sep : Char) (cs : List Char) : Option (Nat × List Char) :=
  match cs.span Char.isDigit with
  | (ds, c :: rest) =>
    if c = sep && (ds.length = 1 || ds.length = 2) then some (Text.digitsValue ds, rest) else none
  | _ => none

/-- The offset at the end of a timestamp: `Z`, or a sign with hours and perhaps minutes. -/
def zone? : List Char → Option (Option Int)
  | [] => some none
  | ['Z'] => some (some 0)
  | sign :: cs =>
    if sign = '+' || sign = '-' then
      let (hours, rest) := cs.span Char.isDigit
      let minutes? : Option Nat := match rest with
        | [] => some 0
        | [':', a, b] => if a.isDigit && b.isDigit then some (Text.digitsValue [a, b]) else none
        | _ => none
      if hours.length = 1 || hours.length = 2 then
        minutes?.map fun m =>
          let n : Int := Text.digitsValue hours * 60 + m
          some (if sign = '-' then -n else n)
      else none
    else none

/-- The time of day behind a date. -/
def timeOfDay? (cs : List Char) : Option (Nat × Nat × Nat × List Char × Option Int) := do
  let (h, cs) ← upToTwo? ':' cs
  match cs with
  | a :: b :: ':' :: c :: d :: rest =>
    if a.isDigit && b.isDigit && c.isDigit && d.isDigit then
      let (fraction, rest) := match rest with
        | '.' :: rest => rest.span Char.isDigit
        | rest => ([], rest)
      let behind := rest.dropWhile fun x => x = ' ' || x = '\t'
      if behind.isEmpty && !rest.isEmpty then none
      else
        let offset ← zone? behind
        return (h, Text.digitsValue [a, b], Text.digitsValue [c, d], fraction, offset)
    else none
  | _ => none

/-- The parts of a written date or timestamp. -/
def moment? (cs : List Char) : Option Moment := do
  let (year, cs) := cs.span Char.isDigit
  if year.length ≠ 4 then none
  match cs with
  | '-' :: cs =>
    let (month, cs) ← upToTwo? '-' cs
    let (day, cs) := cs.span Char.isDigit
    if day.length ≠ 1 && day.length ≠ 2 then none
    match cs with
    | [] => return ⟨Text.digitsValue year, month, Text.digitsValue day, none⟩
    | c :: rest =>
      if c = 'T' || c = 't' then
        let time ← timeOfDay? rest
        return ⟨Text.digitsValue year, month, Text.digitsValue day, some time⟩
      else if c = ' ' || c = '\t' then
        let time ← timeOfDay? (rest.dropWhile fun x => x = ' ' || x = '\t')
        return ⟨Text.digitsValue year, month, Text.digitsValue day, some time⟩
      else none
  | _ => none

/-- Whether a text has the form of a date of ten characters, or of a timestamp. -/
def isTimestamp (cs : List Char) : Bool :=
  match moment? cs with
  | some m => m.time.isSome || cs.length = 10
  | none => false

/-- The tag of a plain scalar. -/
def ofPlain (cs : List Char) : Tag :=
  let s := String.ofList cs
  if isBoolWord s then .bool
  else if isFloat cs then .float
  else if isInt cs then .int
  else if s = "<<" then .merge
  else if isNullWord s then .null
  else if isTimestamp cs then .timestamp
  else if s = "=" then .defaultValue
  else if s = "!" || s = "&" || s = "*" then .unknown
  else .text

end Tag

end DeviceGrant.Yaml
