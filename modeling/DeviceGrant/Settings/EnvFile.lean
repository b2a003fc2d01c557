import DeviceGrant.Registry.ClientsFile
set_option autoImplicit false

/-! # Environment files

An environment file gives names and values, one binding a line: `NAME=value`, perhaps behind
`export`. A value may stand between single or double quotes and then run over several lines;
without quotes it ends at the end of the line or at a comment behind a blank. A name without `=`
has no value. A line that is no binding is passed over.

In a value, `${NAME}` stands for the value of an earlier binding or of the environment, and
`${NAME:-text}` for the given text where there is none. -/

namespace DeviceGrant.EnvFile

/-- A blank that does not end a line. -/
def isInnerBlank (c : Char) : Bool := Text.isBlank c && c ≠ '\n' && c ≠ '\r'

/-- The rest behind the blanks within a line. -/
def skipInner (cs : List Char) : List Char := cs.dropWhile isInnerBlank

/-- A character of a line. -/
def isInLine (c : Char) : Bool := c ≠ '\n' && c ≠ '\r'

/-- The rest behind an optional comment and the end of the line; none when something else
follows. -/
def endLine? (cs : List Char) : Option (List Char) :=
  let behind := match skipInner cs with
    | '#' :: rest => rest.dropWhile isInLine
    | _ => cs
  match skipInner behind with
  | [] => some []
  | '\n' :: rest => some rest
  | '\r' :: rest => some rest
  | _ => none

/-- The rest behind the current line. -/
def dropLine (cs : List Char) : List Char := (cs.dropWhile isInLine).drop 1

/-- The text up to a closing quote and the rest behind it. A quote behind a backslash belongs to
the text as long as a later quote closes it. -/
def quotedText? (quote : Char) : List Char → Option (List Char × List Char)
  | [] => none
  | '\\' :: c :: rest =>
    if c = quote then
      match quotedText? quote rest with
      | some (s, rest) => some ('\\' :: quote :: s, rest)
      | none => some (['\\'], rest)
    else (quotedText? quote (c :: rest)).map fun (s, rest) => ('\\' :: s, rest)
  | c :: rest =>
    if c = quote then some ([], rest)
    else (quotedText? quote rest).map fun (s, rest) => (c :: s, rest)

/-- The character of an escape between double quotes. -/
def doubleEscape? (c : Char) : Option Char :=
  match c with
  | '\\' => some '\\'
  | '\'' => some '\''
  | '"' => some '"'
  | 'a' => some '\x07'
  | 'b' => some '\x08'
  | 'f' => some '\x0c'
  | 'n' => some '\n'
  | 'r' => some '\r'
  | 't' => some '\t'
  | 'v' => some '\x0b'
  | _ => none

/-- The character of an escape between single quotes. -/
def singleEscape? (c : Char) : Option Char := if c = '\\' || c = '\'' then some c else none

/-- A text with its escapes replaced; a backslash before another character stays. -/
def unescape (escape? : Char → Option Char) : List Char → List Char
  | '\\' :: c :: rest =>
    match escape? c with
    | some d => d :: unescape escape? rest
    | none => '\\' :: unescape escape? (c :: rest)
  | c :: rest => c :: unescape escape? rest
  | [] => []

/-- A line up to the first comment that stands behind a blank. -/
def withoutComment : List Char → List Char
  | [] => []
  | c :: cs =>
    if Text.isBlank c && (cs.dropWhile Text.isBlank).head? = some '#' then []
    else c :: withoutComment cs

/-- A value and the rest behind it. -/
def value? (cs : List Char) : Option (List Char × List Char) :=
  match cs with
  | '\'' :: rest => (quotedText? '\'' rest).map fun (s, rest) => (unescape singleEscape? s, rest)
  | '"' :: rest => (quotedText? '"' rest).map fun (s, rest) => (unescape doubleEscape? s, rest)
  | cs => some (Text.trimEnd (withoutComment (cs.takeWhile isInLine)), cs.dropWhile isInLine)

/-- A name and the rest behind it; a comment has no name. -/
def name? (cs : List Char) : Option (Option (List Char) × List Char) :=
  match cs with
  | '#' :: _ => some (none, cs)
  | '\'' :: rest =>
    match rest.span (· ≠ '\'') with
    | (name, _ :: rest) => if name.isEmpty then none else some (some name, rest)
    | _ => none
  | cs =>
    match cs.span fun c => c ≠ '=' && c ≠ '#' && !Text.isBlank c with
    | ([], _) => none
    | (name, rest) => some (some name, rest)

/-- The rest behind the word `export` and a blank, where they stand. -/
def skipExport (cs : List Char) : List Char :=
  match cs with
  | 'e' :: 'x' :: 'p' :: 'o' :: 'r' :: 't' :: c :: rest =>
    if isInnerBlank c then skipInner rest else cs
  | cs => cs

/-- A binding: a name with its value, if any. -/
abbrev Binding := List Char × Option (List Char)

/-- The binding that starts here, if its line has one, and what follows it. An error leaves the
rest of the text behind the place where it was met. -/
def binding (cs : List Char) : Option Binding × List Char :=
  let cs := skipExport cs
  match name? cs with
  | none => (none, dropLine cs)
  | some (name, rest) =>
    let rest := skipInner rest
    let (bound, rest) : Option (Option (List Char)) × List Char := match rest with
      | '=' :: after =>
        let after := skipInner after
        match value? after with
        | some (v, rest) => (some (some v), rest)
        | none => (none, after)
      | rest => (some none, rest)
    match bound with
    | none => (none, dropLine rest)
    | some v =>
      match endLine? rest with
      | some rest => (name.map fun n => (n, v), rest)
      | none =>
        let behind := match skipInner rest with
          | '#' :: more => more.dropWhile isInLine
          | _ => rest
        (none, dropLine behind)

/-- The bindings of a text, at most one for each unit of `fuel`. -/
def bindingsUpTo : Nat → List Char → List Binding
  | 0, _ => []
  | fuel + 1, cs =>
    match cs.dropWhile Text.isBlank with
    | [] => []
    | cs =>
      match binding cs with
      | (some b, rest) => b :: bindingsUpTo fuel rest
      | (none, rest) => bindingsUpTo fuel rest

/-! ## References -/

/-- The name and the default of a reference behind `${`, and the rest behind its brace. -/
def reference? (cs : List Char) : Option (List Char × List Char × List Char) :=
  match cs.span fun c => c ≠ '\x7d' && c ≠ ':' with
  | (name, '\x7d' :: rest) => some (name, [], rest)
  | (name, ':' :: '-' :: more) =>
    match more.span (· ≠ '\x7d') with
    | (default, _ :: rest) => some (name, default, rest)
    | _ => none
  | _ => none

/-- A value with its references replaced by the values of an environment. -/
def expand (env : List (List Char × Option (List Char))) : Nat → List Char → List Char
  | 0, _ => []
  | _, [] => []
  | fuel + 1, '$' :: '\x7b' :: cs =>
    match reference? cs with
    | some (name, default, rest) =>
      let here := match env.find? fun e => e.1 = name with
        | some (_, v) => v.getD []
        | none => default
      here ++ expand env fuel rest
    | none => '$' :: expand env fuel ('\x7b' :: cs)
  | fuel + 1, c :: cs => c :: expand env fuel cs

/-- Bindings with the references in their values replaced, each by what comes before it. `known`
holds the latest values first. -/
def resolve (known : List (List Char × Option (List Char))) : List Binding → List Binding
  | [] => []
  | (n, none) :: bs => (n, none) :: resolve ((n, none) :: known) bs
  | (n, some v) :: bs =>
    let v := expand known (v.length + 1) v
    (n, some v) :: resolve ((n, some v) :: known) bs

/-- The bindings of an environment file in an environment. -/
def read (env : List (String × String)) (s : String) : List (String × Option String) :=
  let cs := ClientsFile.unifyLineEnds s.toList
  let outer := env.reverse.map fun e => (e.1.toList, some e.2.toList)
  (resolve outer (bindingsUpTo (cs.length + 1) cs)).map fun (n, v) =>
    (String.ofList n, v.map String.ofList)

end DeviceGrant.EnvFile
