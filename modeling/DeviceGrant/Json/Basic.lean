import DeviceGrant.Number.Shortest
import DeviceGrant.Text.Quoted
set_option autoImplicit false

/-! # JSON values and their written form

Stored records, answers and callers' data are JSON. `Json.write` is the compact form: no blanks,
objects in the order of their entries, and in a text only the quote, the backslash and the control
characters escaped. A flag asks for every character outside ASCII to be escaped too, as pairs of
surrogates above U+FFFF. -/

namespace DeviceGrant

/-- A JSON value. Whole numbers are exact; an object keeps its entries in order. -/
inductive Json
  | null
  | bool (b : Bool)
  | int (n : Int)
  | float (x : Number.Binary64)
  | text (s : String)
  | list (items : List Json)
  | object (entries : List (String × Json))
deriving Repr, Inhabited

namespace Json

/-- The escape of a character by one or two numbers of four digits. -/
def escapeUnits (n : Nat) : List Char :=
  if n < 0x10000 then '\\' :: 'u' :: Text.hexDigits 4 n
  else
    let m := n - 0x10000
    '\\' :: 'u' :: Text.hexDigits 4 (0xD800 + m / 1024) ++
      '\\' :: 'u' :: Text.hexDigits 4 (0xDC00 + m % 1024)

/-- A character inside a written text. -/
def writeChar (asciiOnly : Bool) (c : Char) : List Char :=
  if c = '"' || c = '\\' then ['\\', c]
  else if c = '\n' then ['\\', 'n']
  else if c = '\r' then ['\\', 'r']
  else if c = '\t' then ['\\', 't']
  else if c = '\x08' then ['\\', 'b']
  else if c = '\x0c' then ['\\', 'f']
  else if c.toNat < 0x20 || (asciiOnly && 0x7F ≤ c.toNat) then escapeUnits c.toNat
  else [c]

/-- A text between quotation marks. -/
def writeText (asciiOnly : Bool) (s : String) : List Char :=
  '"' :: s.toList.flatMap (writeChar asciiOnly) ++ ['"']

/-- A whole number in decimal digits. -/
def writeInt (n : Int) : List Char :=
  if n < 0 then '-' :: Nat.toDigits 10 n.natAbs else Nat.toDigits 10 n.natAbs

mutual
/-- The compact written form of a value. -/
def write (asciiOnly : Bool) : Json → List Char
  | null => ['n', 'u', 'l', 'l']
  | bool true => ['t', 'r', 'u', 'e']
  | bool false => ['f', 'a', 'l', 's', 'e']
  | int n => writeInt n
  | float x => x.toText.toList
  | text s => writeText asciiOnly s
  | list [] => ['[', ']']
  | list (v :: vs) => '[' :: write asciiOnly v ++ writeItems asciiOnly vs
  | object [] => ['\x7b', '\x7d']
  | object ((k, v) :: es) =>
    '\x7b' :: writeText asciiOnly k ++ ':' :: write asciiOnly v ++ writeEntries asciiOnly es

/-- The items after the first, each behind a comma, and the closing bracket. -/
def writeItems (asciiOnly : Bool) : List Json → List Char
  | [] => [']']
  | v :: vs => ',' :: write asciiOnly v ++ writeItems asciiOnly vs

/-- The entries after the first, each behind a comma, and the closing brace. -/
def writeEntries (asciiOnly : Bool) : List (String × Json) → List Char
  | [] => ['\x7d']
  | (k, v) :: es =>
    ',' :: writeText asciiOnly k ++ ':' :: write asciiOnly v ++ writeEntries asciiOnly es
end

/-- The written form as a text. -/
def toText (v : Json) : String := String.ofList (v.write false)

/-- The value of a field; of two entries with one name the later holds. -/
def field? (name : String) : Json → Option Json
  | object es => (es.reverse.find? fun e => e.1 = name).map (·.2)
  | _ => none

end Json

end DeviceGrant
