import DeviceGrant.Json.Basic
import DeviceGrant.Text.Digit
import DeviceGrant.Text.Octets
set_option autoImplicit false

/-! # Reading JSON

`Json.read?` accepts the standard grammar and beside it the numbers `NaN`, `Infinity` and
`-Infinity`. It refuses control characters in texts, escapes of surrogates that form no pair,
numerals and nesting beyond the given limits, and anything but blanks after the value.

The readers return what they read and the rest of the characters. Those for values, items and
entries recurse on a bound that shrinks with every value; the number of characters is enough. -/

namespace DeviceGrant

namespace Json

/-- What a reader refuses although the grammar allows it. -/
structure Limits where
  /-- How many lists and objects may stand inside each other. -/
  depth : Nat
  /-- How many digits a whole number may have, its sign not counted. -/
  numeral : Nat

/-- The limits for stored records and data of callers. -/
def Limits.data : Limits := ⟨200, maxDigits⟩

/-- Drops the blanks that may stand between tokens. -/
def skipSpace (cs : List Char) : List Char :=
  cs.dropWhile fun c => c = ' ' || c = '\n' || c = '\r' || c = '\t'

/-! ## Texts -/

/-- The number written by four hexadecimal digits. -/
def hexUnit? (a b c d : Char) : Option Nat := do
  let a ← Text.hexValue? a
  let b ← Text.hexValue? b
  let c ← Text.hexValue? c
  let d ← Text.hexValue? d
  return a * 4096 + b * 256 + c * 16 + d

/-- The character of a one-letter escape. -/
def simpleEscape? : Char → Option Char
  | '"' => some '"'
  | '\\' => some '\\'
  | '/' => some '/'
  | 'b' => some '\x08'
  | 'f' => some '\x0c'
  | 'n' => some '\n'
  | 'r' => some '\r'
  | 't' => some '\t'
  | _ => none

/-- The characters of a text after its opening quotation mark, and the rest after the closing
one. `done` holds the characters before in reverse; `high` is a first surrogate that awaits its
second. -/
def readChars (done : List Char) (high : Option Nat) :
    List Char → Option (List Char × List Char)
  | [] => none
  | '"' :: rest => if high.isSome then none else some (done.reverse, rest)
  | '\\' :: 'u' :: a :: b :: c :: d :: rest =>
    match hexUnit? a b c d, high with
    | none, _ => none
    | some n, none =>
      if 0xD800 ≤ n && n ≤ 0xDBFF then readChars done (some n) rest
      else if 0xDC00 ≤ n && n ≤ 0xDFFF then none
      else readChars (Char.ofNat n :: done) none rest
    | some n, some h =>
      if 0xDC00 ≤ n && n ≤ 0xDFFF then
        readChars (Char.ofNat (0x10000 + (h - 0xD800) * 1024 + (n - 0xDC00)) :: done) none rest
      else none
  | '\\' :: e :: rest =>
    match simpleEscape? e, high with
    | some c, none => readChars (c :: done) none rest
    | _, _ => none
  | c :: rest =>
    if c = '\\' || c.toNat < 0x20 || high.isSome then none
    else readChars (c :: done) none rest

/-! ## Numbers -/

/-- Characters split after the decimal digits at their front. -/
def splitDigits (cs : List Char) : List Char × List Char := cs.span Char.isDigit

/-- The digits behind a point; none when there is no point, and an error when no digit follows. -/
def readFraction : List Char → Option (Option (List Char) × List Char)
  | '.' :: rest =>
    match splitDigits rest with
    | ([], _) => none
    | (ds, rest) => some (some ds, rest)
  | cs => some (none, cs)

/-- The digits of an exponent as a number. -/
def readExponentDigits (negative : Bool) (cs : List Char) :
    Option (Option Int × List Char) :=
  match splitDigits cs with
  | ([], _) => none
  | (ds, rest) =>
    let n : Int := Text.digitsValue ds
    some (some (if negative then -n else n), rest)

/-- The exponent of a number; none when there is none, and an error when no digit follows. -/
def readExponent : List Char → Option (Option Int × List Char)
  | c :: '-' :: rest =>
    if c = 'e' || c = 'E' then readExponentDigits true rest else some (none, c :: '-' :: rest)
  | c :: '+' :: rest =>
    if c = 'e' || c = 'E' then readExponentDigits false rest else some (none, c :: '+' :: rest)
  | c :: rest => if c = 'e' || c = 'E' then readExponentDigits false rest else some (none, c :: rest)
  | [] => some (none, [])

/-- A number without its sign. -/
def readUnsigned (limit : Nat) (negative : Bool) (cs : List Char) :
    Option (Json × List Char) :=
  match splitDigits cs with
  | ([], 'I' :: 'n' :: 'f' :: 'i' :: 'n' :: 'i' :: 't' :: 'y' :: rest) =>
    some (float (.infinite negative), rest)
  | ([], _) => none
  | (ds, rest) =>
    if ds.head? = some '0' && ds.length ≠ 1 then none
    else do
      let (fraction, rest) ← readFraction rest
      let (exponent, rest) ← readExponent rest
      match fraction, exponent with
      | none, none =>
        let n : Int := Text.digitsValue ds
        if limit < ds.length then none
        else some (int (if negative then -n else n), rest)
      | _, _ =>
        let f := fraction.getD []
        let e := exponent.getD 0 - f.length
        some (float (.ofDecimal negative (Text.digitsValue (ds ++ f)) e), rest)

/-- A number. -/
def readNumber (limit : Nat) : List Char → Option (Json × List Char)
  | '-' :: cs => readUnsigned limit true cs
  | cs => readUnsigned limit false cs

/-! ## Values -/

mutual
/-- A value that starts at the first character. `depth` bounds the lists and objects that it may
open inside each other. -/
def readValue (limit : Nat) : Nat → Nat → List Char → Option (Json × List Char)
  | 0, _, _ => none
  | fuel + 1, depth, cs =>
    match cs with
    | '"' :: rest => (readChars [] none rest).map fun (s, rest) => (text (String.ofList s), rest)
    | '[' :: rest =>
      match depth with
      | 0 => none
      | depth + 1 =>
        match skipSpace rest with
        | ']' :: rest => some (list [], rest)
        | rest => (readItems limit fuel depth rest).map fun (vs, rest) => (list vs, rest)
    | '\x7b' :: rest =>
      match depth with
      | 0 => none
      | depth + 1 =>
        match skipSpace rest with
        | '\x7d' :: rest => some (object [], rest)
        | rest => (readEntries limit fuel depth rest).map fun (es, rest) => (object es, rest)
    | 't' :: 'r' :: 'u' :: 'e' :: rest => some (bool true, rest)
    | 'f' :: 'a' :: 'l' :: 's' :: 'e' :: rest => some (bool false, rest)
    | 'n' :: 'u' :: 'l' :: 'l' :: rest => some (null, rest)
    | 'N' :: 'a' :: 'N' :: rest => some (float .nan, rest)
    | cs => readNumber limit cs

/-- The items of a list from the first on, and the rest after the closing bracket. -/
def readItems (limit : Nat) : Nat → Nat → List Char → Option (List Json × List Char)
  | 0, _, _ => none
  | fuel + 1, depth, cs => do
    let (v, rest) ← readValue limit fuel depth cs
    match skipSpace rest with
    | ',' :: rest =>
      let (vs, rest) ← readItems limit fuel depth (skipSpace rest)
      some (v :: vs, rest)
    | ']' :: rest => some ([v], rest)
    | _ => none

/-- The entries of an object from the first on, and the rest after the closing brace. -/
def readEntries (limit : Nat) : Nat → Nat → List Char → Option (List (String × Json) × List Char)
  | 0, _, _ => none
  | fuel + 1, depth, cs =>
    match cs with
    | '"' :: rest => do
      let (k, rest) ← readChars [] none rest
      match skipSpace rest with
      | ':' :: rest =>
        let (v, rest) ← readValue limit fuel depth (skipSpace rest)
        match skipSpace rest with
        | ',' :: rest =>
          let (es, rest) ← readEntries limit fuel depth (skipSpace rest)
          some ((String.ofList k, v) :: es, rest)
        | '\x7d' :: rest => some ([(String.ofList k, v)], rest)
        | _ => none
      | _ => none
    | _ => none
end

/-- The value of a JSON text. -/
def read? (limits : Limits) (s : String) : Option Json :=
  let cs := skipSpace s.toList
  match readValue limits.numeral (cs.length + 1) limits.depth cs with
  | some (v, rest) => if (skipSpace rest).isEmpty then some v else none
  | none => none

end Json

end DeviceGrant
