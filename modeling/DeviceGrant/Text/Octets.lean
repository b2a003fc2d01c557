set_option autoImplicit false

/-! # Octets and their texts

A body or a file arrives as octets. This module reads them as characters (UTF-8, strictly or with
a replacement character for each ill-formed piece, and Latin-1) and writes them as characters
(hexadecimal, and base64 with the alphabet that is safe in addresses). -/

namespace DeviceGrant.Text

/-! ## UTF-8 -/

/-- The octets of a text in UTF-8. -/
def utf8 (s : String) : List UInt8 := s.toList.flatMap String.utf8EncodeChar

/-- The first and last value that the second octet may have after a lead octet, and how many
octets follow the lead; none when no sequence starts with the octet. -/
def leadOctet (b : Nat) : Option (Nat × Nat × Nat) :=
  if 0xC2 ≤ b && b ≤ 0xDF then some (0x80, 0xBF, 1)
  else if b = 0xE0 then some (0xA0, 0xBF, 2)
  else if b = 0xED then some (0x80, 0x9F, 2)
  else if 0xE1 ≤ b && b ≤ 0xEF then some (0x80, 0xBF, 2)
  else if b = 0xF0 then some (0x90, 0xBF, 3)
  else if 0xF1 ≤ b && b ≤ 0xF3 then some (0x80, 0xBF, 3)
  else if b = 0xF4 then some (0x80, 0x8F, 3)
  else none

/-- What the decoder waits for: the value so far, the range of the next octet, and the number of
octets still to come. -/
structure Utf8Pending where
  value : Nat
  low : Nat
  high : Nat
  left : Nat

/-- The characters of a sequence of octets, with `none` for each longest piece that begins a
sequence and does not finish it, and for each octet that begins none. -/
def decodePieces : Option Utf8Pending → List UInt8 → List (Option Char)
  | none, [] => []
  | some _, [] => [none]
  | pending, b :: rest =>
    let n := b.toNat
    let fresh (before : List (Option Char)) : List (Option Char) :=
      if n < 0x80 then before ++ some (Char.ofNat n) :: decodePieces none rest
      else match leadOctet n with
        | none => before ++ none :: decodePieces none rest
        | some (low, high, left) =>
          let payload := if left = 1 then n % 32 else if left = 2 then n % 16 else n % 8
          before ++ decodePieces (some ⟨payload, low, high, left⟩) rest
    match pending with
    | none => fresh []
    | some p =>
      if p.low ≤ n && n ≤ p.high then
        let value := p.value * 64 + n % 64
        if p.left ≤ 1 then some (Char.ofNat value) :: decodePieces none rest
        else decodePieces (some ⟨value, 0x80, 0xBF, p.left - 1⟩) rest
      else fresh [none]

/-- The text of well-formed UTF-8. -/
def utf8Decode? (octets : List UInt8) : Option String :=
  ((decodePieces none octets).mapM id).map String.ofList

/-- The text of octets that should be UTF-8, with U+FFFD in place of each ill-formed piece. -/
def utf8DecodeReplacing (octets : List UInt8) : String :=
  String.ofList ((decodePieces none octets).map fun c => c.getD (Char.ofNat 0xFFFD))

/-! ## Latin-1 and ASCII letters -/

/-- The text whose characters have the numbers of the octets. -/
def latin1Decode (octets : List UInt8) : String :=
  String.ofList (octets.map fun b => Char.ofNat b.toNat)

/-- A text with its ASCII capitals made small. -/
def lowerAscii (s : String) : String := String.ofList (s.toList.map Char.toLower)

/-- A text with its ASCII small letters made capitals. -/
def upperAscii (s : String) : String := String.ofList (s.toList.map Char.toUpper)

/-! ## Hexadecimal and base64 -/

/-- The value of a hexadecimal digit in either case. -/
def hexValue? (c : Char) : Option Nat :=
  let n := c.toNat
  if 48 ≤ n && n ≤ 57 then some (n - 48)
  else if 97 ≤ n && n ≤ 102 then some (n - 87)
  else if 65 ≤ n && n ≤ 70 then some (n - 55)
  else none

/-- The octets written as pairs of hexadecimal digits; a last odd digit and other characters end
the reading. -/
def hexOctets : List Char → List UInt8
  | a :: b :: rest =>
    match hexValue? a, hexValue? b with
    | some x, some y => UInt8.ofNat (x * 16 + y) :: hexOctets rest
    | _, _ => []
  | _ => []

/-- The digits of base64 in the alphabet that is safe in addresses. -/
def base64UrlAlphabet : List Char :=
  "ABCDEFGHIJKLMNOPQRSTUVWXYZabcdefghijklmnopqrstuvwxyz0123456789-_".toList

/-- A base64 digit. -/
def base64Digit (n : Nat) : Char := base64UrlAlphabet.getD n 'A'

/-- Octets in base64 without padding. -/
def base64Url : List UInt8 → List Char
  | a :: b :: c :: rest =>
    let n := a.toNat * 65536 + b.toNat * 256 + c.toNat
    base64Digit (n / 262144) :: base64Digit (n / 4096 % 64) :: base64Digit (n / 64 % 64) ::
      base64Digit (n % 64) :: base64Url rest
  | [a, b] =>
    let n := a.toNat * 256 + b.toNat
    [base64Digit (n / 1024), base64Digit (n / 16 % 64), base64Digit (n * 4 % 64)]
  | [a] => [base64Digit (a.toNat / 4), base64Digit (a.toNat * 16 % 64)]
  | [] => []

/-- The value of a digit of plain base64. -/
def base64Value? (c : Char) : Option Nat :=
  if c.isUpper then some (c.toNat - 65)
  else if c.isLower then some (c.toNat - 71)
  else if c.isDigit then some (c.toNat + 4)
  else if c = '+' then some 62
  else if c = '/' then some 63
  else none

/-- The octets of a plain base64 text. Other characters are passed over; the padding that
completes a group of four ends the text, and a group that is left incomplete is an error. `held`
counts the digits of the current group, `bits` is the value of the last of them. -/
def base64Decode? (held bits pads : Nat) : List Char → Option (List UInt8)
  | [] => if held = 0 then some [] else none
  | c :: rest =>
    if c = '=' then
      if held ≥ 2 && held + pads + 1 ≥ 4 then some []
      else base64Decode? held bits (if held ≥ 2 then pads + 1 else pads) rest
    else match base64Value? c with
      | none => base64Decode? held bits pads rest
      | some v =>
        if held = 0 then base64Decode? 1 v 0 rest
        else if held = 1 then
          (base64Decode? 2 (v % 16) 0 rest).map (UInt8.ofNat (bits * 4 + v / 16) :: ·)
        else if held = 2 then
          (base64Decode? 3 (v % 4) 0 rest).map (UInt8.ofNat (bits * 16 + v / 4) :: ·)
        else (base64Decode? 0 0 0 rest).map (UInt8.ofNat (bits * 64 + v) :: ·)

end DeviceGrant.Text
