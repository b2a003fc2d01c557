import DeviceGrant.Text.Octets
set_option autoImplicit false

/-! # A place in a YAML text

A cursor is the text that is still to be read and where it starts: the number of characters before
it, its line and its column. Besides line feeds, the characters U+0085, U+2028 and U+2029 end a
line; a byte order mark takes no column.

Most decisions look at the next few characters; `none` stands for the end of the text. -/

namespace DeviceGrant.Yaml

/-- Whether a character ends a line. -/
def isBreak (c : Char) : Bool :=
  c = '\n' || c = '\r' || c.toNat = 0x85 || c.toNat = 0x2028 || c.toNat = 0x2029

/-- Whether a character is a space, a tab or the end of a line. -/
def isBlank (c : Char) : Bool := c = ' ' || c = '\t' || isBreak c

/-- The end of the text or the end of a line. -/
def endsLine : Option Char → Bool
  | none => true
  | some c => isBreak c

/-- The end of the text, a space or the end of a line. -/
def endsWord : Option Char → Bool
  | none => true
  | some c => c = ' ' || isBreak c

/-- The end of the text, a space, a tab or the end of a line. -/
def endsToken : Option Char → Bool
  | none => true
  | some c => isBlank c

/-- A character of a name: a letter or digit of ASCII, a hyphen or an underscore. -/
def isNameChar (c : Char) : Bool := c.isAlphanum || c = '-' || c = '_'

/-- A place in a text. -/
structure Cursor where
  rest : List Char
  index : Nat
  line : Nat
  column : Nat

namespace Cursor

/-- The first place of a text. -/
def start (cs : List Char) : Cursor := ⟨cs, 0, 0, 0⟩

/-- The next character. -/
def peek (c : Cursor) : Option Char := c.rest.head?

/-- The character some places ahead. -/
def peekAt (c : Cursor) (n : Nat) : Option Char := c.rest[n]?

/-- The place behind the next character. -/
def next (c : Cursor) : Cursor :=
  match c.rest with
  | [] => c
  | x :: rest =>
    if isBreak x && !(x = '\r' && rest.head? = some '\n') then
      ⟨rest, c.index + 1, c.line + 1, 0⟩
    else if x.toNat = 0xFEFF then ⟨rest, c.index + 1, c.line, c.column⟩
    else ⟨rest, c.index + 1, c.line, c.column + 1⟩

/-- The place behind the next characters. -/
def skip (c : Cursor) : Nat → Cursor
  | 0 => c
  | n + 1 => c.next.skip n

/-- The characters from here on that pass a test, and the place behind them. -/
def takeWhile (test : Char → Bool) (c : Cursor) : List Char × Cursor :=
  let run := c.rest.takeWhile test
  (run, c.skip run.length)

/-- The place behind the characters that pass a test. -/
def dropWhile (test : Char → Bool) (c : Cursor) : Cursor := (c.takeWhile test).2

/-- The place behind the spaces. -/
def skipSpaces (c : Cursor) : Cursor := c.dropWhile (· = ' ')

/-- The place behind a comment, or the same place where none starts. -/
def skipComment (c : Cursor) : Cursor :=
  if c.peek = some '#' then c.dropWhile (!isBreak ·) else c

/-- The end of a line as it counts in a scalar, and the place behind it; none elsewhere. -/
def lineBreak? (c : Cursor) : Option (Char × Cursor) :=
  match c.rest with
  | '\r' :: '\n' :: _ => some ('\n', c.skip 2)
  | x :: _ =>
    if x = '\n' || x = '\r' || x.toNat = 0x85 then some ('\n', c.next)
    else if isBreak x then some (x, c.next)
    else none
  | [] => none

/-- The place behind the end of a line, if there is one. -/
def skipLineBreak (c : Cursor) : Cursor :=
  match c.lineBreak? with
  | some (_, c) => c
  | none => c

/-- Whether three given characters stand here as a token of their own. -/
def atMarker (mark : Char) (c : Cursor) : Bool :=
  match c.rest with
  | x :: y :: z :: rest => x = mark && y = mark && z = mark && endsToken rest.head?
  | _ => false

/-- Whether a line that separates documents starts here. -/
def atSeparator (c : Cursor) : Bool := c.atMarker '-' || c.atMarker '.'

/-- The rest of a line that may hold only a comment, and the place behind it. -/
def skipLineEnd? (c : Cursor) : Option Cursor :=
  let c := c.skipSpaces.skipComment
  if endsLine c.peek then some c.skipLineBreak else none

end Cursor

end DeviceGrant.Yaml
