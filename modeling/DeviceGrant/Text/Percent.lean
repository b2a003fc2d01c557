import DeviceGrant.Text.Octets
import DeviceGrant.Text.Quoted
set_option autoImplicit false

/-! # Percent escapes

Addresses and forms write an octet as `%` and two hexadecimal digits. Reading is lenient: a `%`
without two digits behind it stands for itself. The octets that escapes stand for are read as UTF-8
together with the ASCII characters around them, and an ill-formed piece becomes U+FFFD. -/

namespace DeviceGrant.Text

/-- The octets of ASCII characters with escapes. -/
def unescapedOctets : List Char → List UInt8
  | '%' :: a :: b :: rest =>
    match hexValue? a, hexValue? b with
    | some x, some y => UInt8.ofNat (x * 16 + y) :: unescapedOctets rest
    | _, _ => UInt8.ofNat '%'.toNat :: unescapedOctets (a :: b :: rest)
  | c :: rest => UInt8.ofNat c.toNat :: unescapedOctets rest
  | [] => []

/-- Whether two characters are both ASCII or both not. -/
def sameAscii (c d : Char) : Bool := (c.toNat < 0x80) == (d.toNat < 0x80)

/-- A text with its escapes read; characters outside ASCII stand for themselves. -/
def percentDecode (cs : List Char) : List Char :=
  (cs.splitBy sameAscii).flatMap fun run =>
    if run.head?.any fun c => c.toNat < 0x80 then
      (utf8DecodeReplacing (unescapedOctets run)).toList
    else run

/-- A text with its escapes read as the characters with the numbers of the octets. -/
def percentDecodeLatin1 : List Char → List Char
  | '%' :: a :: b :: rest =>
    match hexValue? a, hexValue? b with
    | some x, some y => Char.ofNat (x * 16 + y) :: percentDecodeLatin1 rest
    | _, _ => '%' :: percentDecodeLatin1 (a :: b :: rest)
  | c :: rest => c :: percentDecodeLatin1 rest
  | [] => []

/-- The escape of an octet, with capital digits. -/
def percentEscape (b : UInt8) : List Char := '%' :: (hexDigits 2 b.toNat).map Char.toUpper

/-- Whether a character is never escaped. -/
def isUnreserved (c : Char) : Bool := c.isAlphanum || c = '-' || c = '.' || c = '_' || c = '~'

/-- A text in which every character is escaped that is neither unreserved nor one of those given. -/
def percentEncode (kept : List Char) (s : String) : String :=
  String.ofList (s.toList.flatMap fun c =>
    if isUnreserved c || kept.contains c then [c]
    else (String.utf8EncodeChar c).flatMap percentEscape)

end DeviceGrant.Text
