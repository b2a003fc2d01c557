import DeviceGrant.Text.Blank
import DeviceGrant.Text.Digit
import DeviceGrant.Text.Percent
import DeviceGrant.Text.Split
set_option autoImplicit false

/-! # Header values with parameters

The type of a body and the disposition of a part are header values of the form
`value; name=text; name="text"`. A semicolon inside quotes ends no parameter. A name may be spread
over several parameters, `name*0`, `name*1` and so on, and a star at the end of such a name says
that its text has percent escapes; the joined text then starts with its encoding and language,
each followed by an apostrophe.

A header value without any semicolon is a value alone, and its case does not matter. -/

namespace DeviceGrant.Http

/-- A header value and its parameters; of several with one name the last counts. -/
structure Parameterized where
  value : String
  parameters : List (String × String)
deriving DecidableEq, Repr

namespace Parameterized

/-- The text of a parameter. -/
def parameter? (p : Parameterized) (name : String) : Option String :=
  (p.parameters.reverse.find? fun e => e.1 = name).map (·.2)

/-! ## Cutting a header value -/

/-- The pieces between the semicolons outside quotes. `inQuotes` says whether a quote is open,
`last` is the character before, and `piece` is what the current piece has so far, backwards. -/
def pieces (inQuotes : Bool) (last : Option Char) (piece : List Char) :
    List Char → List (List Char)
  | [] => [piece.reverse]
  | c :: cs =>
    if c = ';' && !inQuotes then piece.reverse :: pieces false none [] cs
    else
      let flips := c = '"' && last ≠ some '\\'
      pieces (inQuotes != flips) (some c) (c :: piece) cs

/-- The name of a piece in small letters and its text; a piece without equals sign is a name alone
and keeps its case. -/
def nameAndText (piece : List Char) : String × List Char :=
  match Text.cutFirst? '=' piece with
  | some (name, text) =>
    (String.ofList ((Text.trimChars name).map Char.toLower), Text.trimChars text)
  | none => (String.ofList (Text.trimChars piece), [])

/-- A text inside quotes with its escapes removed: first those of backslashes, then those of
quotes. -/
def unescape (cs : List Char) : List Char := quotes (backslashes cs)
where
  backslashes : List Char → List Char
    | '\\' :: '\\' :: cs => '\\' :: backslashes cs
    | c :: cs => c :: backslashes cs
    | [] => []
  quotes : List Char → List Char
    | '\\' :: '"' :: cs => '"' :: quotes cs
    | c :: cs => c :: quotes cs
    | [] => []

/-- A text without the quotes or angle brackets around it. -/
def unquote (cs : List Char) : List Char :=
  if cs.length ≤ 1 then cs
  else if cs.head? = some '"' && cs.getLast? = some '"' then unescape ((cs.drop 1).dropLast)
  else if cs.head? = some '<' && cs.getLast? = some '>' then (cs.drop 1).dropLast
  else cs

/-! ## Names spread over several parameters -/

/-- A part of a text that is spread over several parameters. -/
structure Section where
  number : Option Nat
  text : String
  escaped : Bool

/-- Whether a character may stand in a name that is spread. -/
def isNameChar (c : Char) : Bool := c.isAlphanum || c = '_'

/-- The name and the number of a section. -/
def sectionName? (name : String) : Option (String × Option Nat) :=
  match Text.cutFirst? '*' name.toList with
  | none => none
  | some (base, number) =>
    let digits := if number.getLast? = some '*' then number.dropLast else number
    if base.isEmpty || !base.all isNameChar || !digits.all Char.isDigit then none
    else if digits.isEmpty then if number.isEmpty then some (String.ofList base, none) else none
    else some (String.ofList base, some (Text.digitsValue digits))

/-- The order of sections: by number, then by text. -/
def Section.le (a b : Section) : Bool :=
  match a.number, b.number with
  | none, some _ => true
  | some _, none => false
  | none, none => decide (a.text ≤ b.text)
  | some m, some n => m < n || (m = n && decide (a.text ≤ b.text))

/-- The text of sections: joined in order, its escapes read, and without encoding and language. -/
def joined (sections : List Section) : String :=
  let text := (sections.mergeSort Section.le).flatMap fun s =>
    if s.escaped then Text.percentDecodeLatin1 s.text.toList else s.text.toList
  if sections.any (·.escaped) then
    match Text.splitOn '\'' text with
    | _ :: _ :: rest@(_ :: _) => String.ofList (List.intercalate ['\''] rest)
    | _ => String.ofList text
  else String.ofList text

/-- The parameters of pieces: those that stand alone, then those that are spread, in the order of
their first sections. -/
def ofPieces (ps : List (List Char)) : List (String × String) :=
  let named := ps.map fun p =>
    let (name, text) := nameAndText p
    (name, String.ofList (unquote text))
  let alone := named.filter fun e => (sectionName? e.1).isNone
  let spread := named.filterMap fun e => (sectionName? e.1).map fun (base, number) =>
    (base, Section.mk number e.2 (e.1.toList.getLast? = some '*'))
  let names := (spread.map (·.1)).eraseDups
  alone ++ names.map fun n => (n, joined ((spread.filter fun e => e.1 = n).map (·.2)))

/-- The value and the parameters of a header value. -/
def read (s : String) : Parameterized :=
  if s.toList.contains ';' then
    match pieces false none [] s.toList with
    | [] => ⟨"", []⟩
    | first :: rest => ⟨(nameAndText first).1, ofPieces rest⟩
  else ⟨Text.trim (Text.lowerAscii s), []⟩

end Parameterized

end DeviceGrant.Http
