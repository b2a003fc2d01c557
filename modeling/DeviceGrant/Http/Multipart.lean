import DeviceGrant.Http.Parameters
set_option autoImplicit false

/-! # Forms in several parts

A multipart body is a sequence of parts between boundaries. Each part has headers, an empty line
and data; the disposition header names the field and says whether the part is a file. The data of
a part ends at the first boundary that stands on a line of its own, either before another part or,
marked by two hyphens, at the end. Whatever is left unfinished at the end of the body is dropped.

The characters of a body stand for its octets. -/

namespace DeviceGrant.Http

/-- Why a form cannot be read. -/
inductive FormFault
  | boundaryMissing
  | malformed
  | nameMissing
  | partTooLong
  | tooManyFields
  | tooManyFiles
deriving DecidableEq, Repr

/-- The most octets of a field. -/
def maxPartSize : Nat := 1048576

/-- The most fields, and the most files, of a form. -/
def maxParts : Nat := 1000

/-- The message of a fault. -/
def FormFault.message : FormFault → String
  | boundaryMissing => "Missing boundary in multipart."
  | malformed => "Invalid multipart data."
  | nameMissing => "The Content-Disposition header field \"name\" must be provided."
  | partTooLong => "Part exceeded maximum size of " ++ toString (maxPartSize / 1024) ++ "KB."
  | tooManyFields =>
    "Too many fields. Maximum number of fields is " ++ toString maxParts ++ "."
  | tooManyFiles => "Too many files. Maximum number of files is " ++ toString maxParts ++ "."

/-- The fields of a form in order, each with its text or as a file. -/
abbrev FormFields := List (String × Option String)

namespace Multipart

/-! ## Encodings -/

/-- Whether an encoding is UTF-8 under one of its names. -/
def isUtf8Name (encoding : String) : Bool :=
  ["utf8", "u8", "utf", "cp65001"].contains
    (String.ofList ((encoding.toList.filter Char.isAlphanum).map Char.toLower))

/-- The text of characters that stand for octets. Octets that are not what the encoding says are
read as Latin-1. -/
def decode (encoding : String) (cs : List Char) : String :=
  let plain := String.ofList cs
  if isUtf8Name encoding then
    (Text.utf8Decode? (cs.map fun c => UInt8.ofNat c.toNat)).getD plain
  else plain

/-! ## Headers of a part -/

/-- Where in the headers of a part a reader stands. The names and values read so far are held
backwards. -/
inductive HeaderPhase
  | lineStart
  | name (read : List Char)
  | valueStart (name : List Char)
  | value (name read : List Char)
  | valueEnd
  | headersEnd

/-- A character of a header name. -/
def isTokenChar (c : Char) : Bool := c.isAlphanum || "!#$%&'*+-.^_\x60|~".toList.contains c

/-- The disposition after a header has been read, its name and value given backwards. -/
def withHeader (disposition : String) (name value : List Char) : String :=
  if Text.lowerAscii (String.ofList name.reverse) = "content-disposition" then
    String.ofList value.reverse
  else disposition

/-- The disposition of a part and what follows its headers; none when the body ends before. -/
def readHeaders (disposition : String) : HeaderPhase → List Char →
    Except FormFault (Option (String × List Char))
  | _, [] => .ok none
  | .lineStart, c :: cs =>
    if c = '\r' then readHeaders disposition .headersEnd cs
    else if isTokenChar c then readHeaders disposition (.name [c]) cs
    else .error .malformed
  | .name read, c :: cs =>
    if c = ':' then readHeaders disposition (.valueStart read) cs
    else if isTokenChar c then readHeaders disposition (.name (c :: read)) cs
    else .error .malformed
  | .valueStart name, c :: cs =>
    if c = ' ' then readHeaders disposition (.valueStart name) cs
    else if c = '\r' then readHeaders (withHeader disposition name []) .valueEnd cs
    else readHeaders disposition (.value name [c]) cs
  | .value name read, c :: cs =>
    if c = '\r' then readHeaders (withHeader disposition name read) .valueEnd cs
    else readHeaders disposition (.value name (c :: read)) cs
  | .valueEnd, c :: cs =>
    if c = '\n' then readHeaders disposition .lineStart cs else .error .malformed
  | .headersEnd, c :: cs => if c = '\n' then .ok (some (disposition, cs)) else .error .malformed

/-! ## Boundaries -/

/-- Whether the boundary at the front of some characters is the last one, and what follows it;
none when no boundary stands there. -/
def boundary? (boundary cs : List Char) : Option (Bool × List Char) :=
  let mark := '\r' :: '\n' :: '-' :: '-' :: boundary
  if mark.isPrefixOf cs then
    match cs.drop mark.length with
    | '\r' :: '\n' :: rest => some (false, rest)
    | '-' :: '-' :: rest => some (true, rest)
    | _ => none
  else none

/-- The data up to the next boundary, whether that boundary is the last one, and what follows it.
`read` is the data before, backwards. -/
def readData (boundary read : List Char) : List Char → Option (List Char × Bool × List Char)
  | [] => none
  | c :: cs =>
    match boundary? boundary (c :: cs) with
    | some (last, rest) => some (read.reverse, last, rest)
    | none => readData boundary (c :: read) cs

/-- What follows the boundary at the start of a body; none when no part follows it. -/
def readOpening : List Char → List Char → Except FormFault (Option (List Char))
  | _, [] => .ok none
  | [], ['\r'] => .ok none
  | [], '\r' :: '\n' :: cs => .ok (some cs)
  | [], ['-'] => .ok none
  | [], '-' :: '-' :: _ => .ok none
  | [], _ => .error .malformed
  | b :: bs, c :: cs => if b = c then readOpening bs cs else .error .malformed

/-! ## Bodies -/

/-- The fields from the headers of a part on. `fields` and `files` count those before. -/
def readParts (boundary : List Char) (encoding : String) : Nat → Nat → Nat → List Char →
    Except FormFault FormFields
  | 0, _, _, _ => .ok []
  | fuel + 1, fields, files, cs => do
    match ← readHeaders "" .lineStart cs with
    | none => return []
    | some (disposition, cs) =>
      let parameters := Parameterized.read disposition
      let isFile := (parameters.parameter? "filename").isSome
      match parameters.parameter? "name" with
      | none => .error .nameMissing
      | some name =>
        if isFile && maxParts ≤ files then .error .tooManyFiles
        else if !isFile && maxParts ≤ fields then .error .tooManyFields
        else
          match readData boundary [] cs with
          | none => if !isFile && maxPartSize < cs.length then .error .partTooLong else .ok []
          | some (data, last, rest) =>
            if !isFile && maxPartSize < data.length then .error .partTooLong
            else
              let field := (decode encoding name.toList,
                if isFile then none else some (decode encoding data))
              let others ← if last then .ok [] else
                readParts boundary encoding fuel (if isFile then fields else fields + 1)
                  (if isFile then files + 1 else files) rest
              return field :: others

/-- The fields of a body. -/
def read (boundary encoding : String) (body : List Char) : Except FormFault FormFields := do
  let start := body.dropWhile fun c => c = '\r' || c = '\n'
  match ← readOpening ('-' :: '-' :: boundary.toList) start with
  | none => return []
  | some cs => readParts boundary.toList encoding (cs.length + 1) 0 0 cs

end Multipart

end DeviceGrant.Http
