import DeviceGrant.Calendar
import DeviceGrant.Number.Shortest
import DeviceGrant.Text.Digit
import DeviceGrant.Text.Quoted
set_option autoImplicit false

/-! # Values of data files

A clients file, and the values that callers hand in for a validated structure, are trees of
`Value`s. The type has what JSON has, and beside it what only a clients file can hold: octets,
dates, timestamps, pairs, sets and mappings whose keys are not texts, and lists and mappings that
are members of themselves, where the tree ends with a mark.

Mappings keep their entries in order of first insertion. Two keys are one key when their values
are equal: `1`, `1.0` and `true` are one key. -/

namespace DeviceGrant

open scoped Number

/-- A tree of data. -/
inductive Value
  | null
  | bool (b : Bool)
  | int (n : Int)
  | float (x : Number.Binary64)
  | text (s : String)
  | bytes (octets : List UInt8)
  | date (d : Date)
  | timestamp (t : Timestamp)
  | list (items : List Value)
  | tuple (items : List Value)
  | set (items : List Value)
  | map (entries : List (Value × Value))
  /-- The list inside of which this stands. -/
  | listAgain
  /-- The mapping inside of which this stands. -/
  | mapAgain
deriving Repr, Inhabited

namespace Value

/-! ## Kinds and equality of keys -/

/-- The word by which a log line names the kind of a value. -/
def kindWord : Value → String
  | null => "NoneType"
  | bool _ => "bool"
  | int _ => "int"
  | float _ => "float"
  | text _ => "str"
  | bytes _ => "bytes"
  | date _ => "date"
  | timestamp _ => "datetime"
  | list _ => "list"
  | tuple _ => "tuple"
  | set _ => "set"
  | map _ => "dict"
  | listAgain => "list"
  | mapAgain => "dict"

/-- Whether a value may be a key or a member of a set: only values that cannot change may. -/
def isKey : Value → Bool
  | list _ => false
  | tuple items => itemsAreKeys items
  | set _ => false
  | map _ => false
  | listAgain => false
  | mapAgain => false
  | _ => true
where
  itemsAreKeys : List Value → Bool
    | [] => true
    | v :: vs => isKey v && itemsAreKeys vs

/-- The kind word of the part of a value that keeps it from being a key. -/
def nonKeyWord : Value → String
  | tuple items => itemsWord items
  | v => v.kindWord
where
  itemsWord : List Value → String
    | [] => ""
    | v :: vs => if v.isKey then itemsWord vs else nonKeyWord v

/-- The number that a value counts as among keys. -/
def asNumber? : Value → Option (Int ⊕ Number.Binary64)
  | bool b => some (.inl (if b then 1 else 0))
  | int n => some (.inl n)
  | float x => match x.toInt? with
    | some n => some (.inl n)
    | none => some (.inr x)
  | _ => none

/-- Whether two values are the same key. -/
def sameKey (a b : Value) : Bool :=
  match a.asNumber?, b.asNumber? with
  | some x, some y => x = y
  | none, none => match a, b with
    | null, null => true
    | text s, text t => s = t
    | bytes s, bytes t => s = t
    | date s, date t => s = t
    | timestamp s, timestamp t => s.sameInstant t
    | tuple s, tuple t => sameItems s t
    | _, _ => false
  | _, _ => false
where
  sameItems : List Value → List Value → Bool
    | [], [] => true
    | v :: vs, w :: ws => sameKey v w && sameItems vs ws
    | _, _ => false

/-- Members without the later ones that equal an earlier one. -/
def distinct (items : List Value) : List Value :=
  items.foldl (fun kept v => if kept.any (sameKey v) then kept else kept ++ [v]) []

/-- The value of a key among entries. -/
def find? (key : Value) (entries : List (Value × Value)) : Option Value :=
  (entries.find? fun e => sameKey e.1 key).map (·.2)

/-- Entries after one is set: an equal key keeps its place and its first spelling. -/
def putEntry {α : Type} (key : Value) (value : α) : List (Value × α) → List (Value × α)
  | [] => [(key, value)]
  | (k, v) :: rest =>
    if sameKey k key then (k, value) :: rest else (k, v) :: putEntry key value rest

/-- The value of a text key. -/
def field? (name : String) (entries : List (Value × Value)) : Option Value :=
  find? (text name) entries

/-! ## Truth -/

/-- Whether a value counts as present: zero, the empty text and empty collections do not. -/
def isTruthy : Value → Bool
  | null => false
  | bool b => b
  | int n => n ≠ 0
  | float x => !x.isZero
  | text s => !s.isEmpty
  | bytes b => !b.isEmpty
  | date _ => true
  | timestamp _ => true
  | list xs => !xs.isEmpty
  | tuple xs => !xs.isEmpty
  | set xs => !xs.isEmpty
  | map es => !es.isEmpty
  | listAgain => true
  | mapAgain => true

/-- A value, or the given one where it is absent, null or counts as empty. -/
def orDefault (v : Option Value) (default : Value) : Value :=
  match v with
  | some v => if v.isTruthy then v else default
  | none => default

/-! ## Printed forms -/

/-- An octet inside quoted octets. -/
def quotedOctet (quote : Char) (b : UInt8) : List Char :=
  let c := Char.ofNat b.toNat
  if c = quote || c = '\\' then ['\\', c]
  else if c = '\t' then ['\\', 't']
  else if c = '\n' then ['\\', 'n']
  else if c = '\r' then ['\\', 'r']
  else if 32 ≤ b.toNat && b.toNat < 127 then [c]
  else '\\' :: 'x' :: Text.hexDigits 2 b.toNat

/-- Octets between quotes. -/
def quotedOctets (octets : List UInt8) : String :=
  let q := Text.quoteFor (octets.map fun b => Char.ofNat b.toNat)
  String.ofList ('b' :: q :: octets.flatMap (quotedOctet q) ++ [q])

mutual
/-- The form in which a log line quotes a value. -/
def quoted : Value → String
  | null => "None"
  | bool b => if b then "True" else "False"
  | int n => toString n
  | float x => x.toText
  | text s => Text.quoted s
  | bytes b => quotedOctets b
  | date d => d.toQuoted
  | timestamp t => t.toQuoted
  | list xs => "[" ++ quotedItems xs ++ "]"
  | tuple [x] => "(" ++ quoted x ++ ",)"
  | tuple xs => "(" ++ quotedItems xs ++ ")"
  | set [] => "set()"
  | set xs => "\x7b" ++ quotedItems xs ++ "\x7d"
  | map es => "\x7b" ++ quotedEntries es ++ "\x7d"
  | listAgain => "[...]"
  | mapAgain => "\x7b...\x7d"

/-- Quoted values with commas between them. -/
def quotedItems : List Value → String
  | [] => ""
  | [v] => quoted v
  | v :: w :: vs => quoted v ++ ", " ++ quotedItems (w :: vs)

/-- Quoted entries with commas between them. -/
def quotedEntries : List (Value × Value) → String
  | [] => ""
  | [(k, v)] => quoted k ++ ": " ++ quoted v
  | (k, v) :: e :: es => quoted k ++ ": " ++ quoted v ++ ", " ++ quotedEntries (e :: es)
end

mutual
/-- Whether a value can be printed: no whole number in it has too many digits. -/
def isPrintable : Value → Bool
  | int n => n.natAbs < 10 ^ maxDigits
  | list xs => areItemsPrintable xs
  | tuple xs => areItemsPrintable xs
  | set xs => areItemsPrintable xs
  | map es => areEntriesPrintable es
  | _ => true

/-- Whether all values of a list can be printed. -/
def areItemsPrintable : List Value → Bool
  | [] => true
  | v :: vs => isPrintable v && areItemsPrintable vs

/-- Whether all keys and values of entries can be printed. -/
def areEntriesPrintable : List (Value × Value) → Bool
  | [] => true
  | (k, v) :: es => isPrintable k && isPrintable v && areEntriesPrintable es
end

/-- The text that a value stands for as the name of a client. -/
def toText : Value → String
  | text s => s
  | date d => d.toText
  | timestamp t => t.toText
  | v => v.quoted

end Value

end DeviceGrant
