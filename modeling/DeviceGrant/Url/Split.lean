import DeviceGrant.Text.Quoted
import DeviceGrant.Url.Address
set_option autoImplicit false

/-! # Splitting a URL

`Url.split` finds the scheme and the authority of a URL. Control characters and spaces in front
are dropped first, and tabs and line ends everywhere. A URL without `//` behind its scheme has no
authority.

An authority with brackets is checked: they must pair up, enclose the whole host apart from a port,
and hold a numeric address. An authority outside ASCII must not hold one of the few characters
whose compatibility form contains a delimiter. -/

namespace DeviceGrant

/-- Why a URL cannot be split. -/
inductive UrlFault
  | brackets
  | futureAddress
  | notAnAddress (host : String)
  | version4InBrackets
  | hiddenDelimiter (authority : String)
deriving DecidableEq, Repr

/-- The text of a fault. -/
def UrlFault.message : UrlFault → String
  | brackets => "Invalid IPv6 URL"
  | futureAddress => "IPvFuture address is invalid"
  | notAnAddress host => Text.quoted host ++ " does not appear to be an IPv4 or IPv6 address"
  | version4InBrackets => "An IPv4 address cannot be in brackets"
  | hiddenDelimiter authority =>
    "netloc '" ++ authority ++ "' contains invalid characters under NFKC normalization"

/-- The scheme and the authority of a URL; either may be empty. -/
structure Url where
  scheme : List Char
  authority : List Char
deriving DecidableEq, Repr

namespace Url

/-- A character of a scheme. -/
def isSchemeChar (c : Char) : Bool := c.isAlphanum || c = '+' || c = '-' || c = '.'

/-- A URL without control characters and spaces in front, and without tabs and line ends. -/
def clean (cs : List Char) : List Char :=
  (cs.dropWhile fun c => c.toNat ≤ 0x20).filter fun c => c ≠ '\t' && c ≠ '\r' && c ≠ '\n'

/-- The scheme in small letters and what follows its colon; the scheme is empty when the URL does
not start with one. -/
def splitScheme (cs : List Char) : List Char × List Char :=
  match Text.cutFirst? ':' cs with
  | some (c :: scheme, rest) =>
    if c.isAlpha && scheme.all isSchemeChar then ((c :: scheme).map Char.toLower, rest)
    else ([], cs)
  | _ => ([], cs)

/-- Whether a character ends an authority. -/
def endsAuthority (c : Char) : Bool := c = '/' || c = '?' || c = '#'

/-- The characters whose compatibility form contains a delimiter of URLs. -/
def hiddenDelimiters : List Nat :=
  [0x2047, 0x2048, 0x2049, 0x2100, 0x2101, 0x2105, 0x2106, 0x2A74, 0xFE13, 0xFE16, 0xFE55, 0xFE56,
    0xFE5F, 0xFE6B, 0xFF03, 0xFF0F, 0xFF1A, 0xFF1F, 0xFF20]

/-- Checks a host that has to be a numeric address. -/
def checkNumericHost (host : List Char) : Except UrlFault Unit :=
  match host with
  | 'v' :: _ => if isFutureVersion host then .ok () else .error .futureAddress
  | _ =>
    if isDotted host then .error .version4InBrackets
    else if isVersion6 host then .ok ()
    else .error (.notAnAddress (String.ofList host))

/-- Checks an authority that holds both brackets. -/
def checkBracketed (authority : List Char) : Except UrlFault Unit :=
  let hostAndPort := Text.afterLast '@' authority
  match Text.cutFirst? '[' hostAndPort with
  | some ([], bracketed) =>
    let (host, port) := (Text.cutFirst? ']' bracketed).getD (bracketed, [])
    if !port.isEmpty && port.head? ≠ some ':' then .error .brackets else checkNumericHost host
  | some _ => .error .brackets
  | none => checkNumericHost (Text.beforeFirst ':' hostAndPort)

/-- Checks an authority. -/
def checkAuthority (authority : List Char) : Except UrlFault Unit :=
  let opens := authority.contains '['
  let closes := authority.contains ']'
  if opens != closes then .error .brackets
  else do
    if opens then checkBracketed authority
    if authority.any fun c => hiddenDelimiters.contains c.toNat then
      .error (.hiddenDelimiter (String.ofList authority))
    else .ok ()

/-- The scheme and the authority of a URL. -/
def split (cs : List Char) : Except UrlFault Url :=
  let (scheme, rest) := splitScheme (clean cs)
  match rest with
  | '/' :: '/' :: rest =>
    let authority := rest.takeWhile fun c => !endsAuthority c
    (checkAuthority authority).map fun _ => ⟨scheme, authority⟩
  | _ => .ok ⟨scheme, []⟩

/-- A URL without its query and its fragment, cleaned and with its scheme in small letters. -/
def withoutQuery (cs : List Char) : Except UrlFault (List Char) :=
  let inPath (c : Char) : Bool := c ≠ '?' && c ≠ '#'
  let (scheme, rest) := splitScheme (clean cs)
  let front := if scheme.isEmpty then [] else scheme ++ [':']
  match rest with
  | '/' :: '/' :: rest =>
    let authority := rest.takeWhile fun c => !endsAuthority c
    let path := (rest.drop authority.length).takeWhile inPath
    (checkAuthority authority).map fun _ => front ++ '/' :: '/' :: authority ++ path
  | rest => .ok (front ++ rest.takeWhile inPath)

end Url

end DeviceGrant
