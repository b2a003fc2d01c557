import DeviceGrant.Text.Digit
import DeviceGrant.Text.Octets
import DeviceGrant.Text.Split
set_option autoImplicit false

/-! # Numeric network addresses

The host between brackets in a URL has to be a numeric address of version 6, perhaps with a zone
after `%`, or an address of a later version that starts with `v`. Dotted addresses of version 4
are recognised in order to be refused there, and as the end of an address of version 6. -/

namespace DeviceGrant.Url

/-- One of the four numbers of a dotted address: 0 to 255 without extra zeros. -/
def isOctetNumeral (ds : List Char) : Bool :=
  !ds.isEmpty && ds.all Char.isDigit && ds.length ≤ 3 && (ds = ['0'] || ds.head? ≠ some '0') &&
    Text.digitsValue ds ≤ 255

/-- A dotted address: four numbers with points between them. -/
def isDotted (cs : List Char) : Bool :=
  let parts := Text.splitOn '.' cs
  parts.length = 4 && parts.all isOctetNumeral

/-- One part of an address of version 6: up to four hexadecimal digits. -/
def isHextet (cs : List Char) : Bool :=
  !cs.isEmpty && cs.length ≤ 4 && cs.all fun c => (Text.hexValue? c).isSome

/-- Parts of an address of version 6 in which the last may have been a dotted address, counted as
two parts. -/
def expandDotted (parts : List (List Char)) : Option (List (List Char)) :=
  match parts.getLast? with
  | some last =>
    if last.contains '.' then
      if isDotted last then some (parts.dropLast ++ [['0'], ['0']]) else none
    else some parts
  | none => some parts

/-- The places of empty parts that are neither first nor last. -/
def innerGaps (parts : List (List Char)) : List Nat :=
  (List.range parts.length).filter fun i =>
    0 < i && i + 1 < parts.length && (parts.getD i []).isEmpty

/-- Whether the parts between the colons make up an address of version 6. A gap stands for one or
more parts that are zero; an address starts or ends with a colon only as part of a gap. -/
def areHextets (parts : List (List Char)) : Bool :=
  let count := parts.length
  match innerGaps parts with
  | [] => count = 8 && parts.all isHextet
  | [gap] =>
    let front := parts.take gap
    let back := parts.drop (gap + 1)
    let front := if front.head? = some [] then front.drop 1 else front
    let back := if back.getLast? = some [] then back.dropLast else back
    let openFront := (parts.head? = some []) && !front.isEmpty
    let openBack := (parts.getLast? = some []) && !back.isEmpty
    !openFront && !openBack && front.length + back.length < 8 && front.all isHextet &&
      back.all isHextet
  | _ => false

/-- An address of version 6 without a zone. -/
def isColonAddress (cs : List Char) : Bool :=
  let parts := Text.splitOn ':' cs
  3 ≤ parts.length &&
    match expandDotted parts with
    | some parts => parts.length ≤ 9 && areHextets parts
    | none => false

/-- An address of version 6, with a zone after a single `%` or without one. -/
def isVersion6 (cs : List Char) : Bool :=
  !cs.contains '/' &&
    match Text.cutFirst? '%' cs with
    | none => isColonAddress cs
    | some (address, zone) => !zone.isEmpty && !zone.contains '%' && isColonAddress address

/-- An address of a later version: `v`, hexadecimal digits, a point, and at least one further
character. -/
def isFutureVersion : List Char → Bool
  | 'v' :: cs =>
    match cs.span fun c => (Text.hexValue? c).isSome with
    | (version, '.' :: rest) => !version.isEmpty && !rest.isEmpty
    | _ => false
  | _ => false

end DeviceGrant.Url
