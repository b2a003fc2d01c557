import DeviceGrant.Yaml.Cursor
set_option autoImplicit false

/-! # The text of YAML scalars

A scalar is written plain, between quotes, or as a block of lines. Its text is what is left when
line ends are folded: one line end between words counts as a space, and of several all but the
first are kept. A literal block keeps its lines as they are. In double quotes a backslash starts an
escape.

Every reader starts at the first character of the scalar and gives its text with the place behind
it. The bound on the recursion is the number of characters that are left. -/

namespace DeviceGrant.Yaml

namespace Cursor

/-! ## Between quotes -/

/-- Line ends and blank lines, up to a line that goes on. A line that separates documents ends the
text inside a quoted scalar and is an error. -/
def quotedBreaks? : Nat → Cursor → Option (List Char × Cursor)
  | 0, _ => none
  | fuel + 1, c =>
    if c.atSeparator then none
    else
      let c := c.dropWhile fun x => x = ' ' || x = '\t'
      match c.lineBreak? with
      | none => some ([], c)
      | some (b, c) => (quotedBreaks? fuel c).map fun (bs, c) => (b :: bs, c)

/-- Line ends after the first, folded: none of them leaves a space. -/
def foldBreaks (first : Char) (more : List Char) : List Char :=
  if first ≠ '\n' then first :: more
  else if more.isEmpty then [' '] else more

/-- Blanks inside a quoted scalar: kept within a line, folded at its end. -/
def quotedSpaces? (c : Cursor) : Option (List Char × Cursor) :=
  let (blanks, c) := c.takeWhile fun x => x = ' ' || x = '\t'
  match c.lineBreak? with
  | some (b, c) => (quotedBreaks? (c.rest.length + 1) c).map fun (bs, c) => (foldBreaks b bs, c)
  | none => if c.peek.isNone then none else some (blanks, c)

/-- The character of an escape by one letter. -/
def escapeLetter? (c : Char) : Option Char :=
  match c with
  | '0' => some '\x00'
  | 'a' => some '\x07'
  | 'b' => some '\x08'
  | 't' => some '\t'
  | '\t' => some '\t'
  | 'n' => some '\n'
  | 'v' => some '\x0b'
  | 'f' => some '\x0c'
  | 'r' => some '\r'
  | 'e' => some '\x1b'
  | ' ' => some ' '
  | '"' => some '"'
  | '\\' => some '\\'
  | '/' => some '/'
  | 'N' => some (Char.ofNat 0x85)
  | '_' => some (Char.ofNat 0xA0)
  | 'L' => some (Char.ofNat 0x2028)
  | 'P' => some (Char.ofNat 0x2029)
  | _ => none

/-- The number of hexadecimal digits of an escape by number. -/
def escapeWidth? (c : Char) : Option Nat :=
  match c with
  | 'x' => some 2
  | 'u' => some 4
  | 'U' => some 8
  | _ => none

/-- The value of exactly `width` hexadecimal digits. -/
def hexNumber? (width : Nat) (cs : List Char) : Option Nat :=
  let ds := cs.take width
  if ds.length = width then
    ds.foldl (fun n d => do return (← n) * 16 + (← Text.hexValue? d)) (some 0)
  else none

/-- The character with a number. A surrogate is no character, and the private character with the
number `n + 0x102000` stands for it: of these there are as many, and nothing here tells the two
apart but the number. -/
def charOfNumber? (n : Nat) : Option Char :=
  if 0x110000 ≤ n then none
  else if 0xD800 ≤ n && n < 0xE000 then some (Char.ofNat (n + 0x102000))
  else some (Char.ofNat n)

/-- What an escape behind its backslash stands for. An escaped line end stands for nothing, and
the blanks at the start of the next line go with it. -/
def escape? (c : Cursor) : Option (List Char × Cursor) := do
  let x ← c.peek
  match escapeLetter? x, escapeWidth? x with
  | some y, _ => return ([y], c.next)
  | none, some width =>
    let n ← hexNumber? width c.next.rest
    let y ← charOfNumber? n
    return ([y], c.next.skip width)
  | none, none =>
    let (_, c) ← c.lineBreak?
    quotedBreaks? (c.rest.length + 1) c

/-- The part of a quoted scalar up to the next blank or its end. -/
def quotedWord? (double : Bool) : Nat → Cursor → Option (List Char × Cursor)
  | 0, _ => none
  | fuel + 1, c =>
    let (run, c) := c.takeWhile fun x => !(x = '\'' || x = '"' || x = '\\' || isBlank x)
    let more (part : List Char) (c : Cursor) : Option (List Char × Cursor) :=
      (quotedWord? double fuel c).map fun (cs, c) => (run ++ part ++ cs, c)
    match c.peek with
    | some '\'' =>
      if double then more ['\''] c.next
      else if c.peekAt 1 = some '\'' then more ['\''] (c.skip 2)
      else some (run, c)
    | some '"' => if double then some (run, c) else more ['"'] c.next
    | some '\\' =>
      if double then
        match c.next.escape? with
        | some (part, c) => more part c
        | none => none
      else more ['\\'] c.next
    | _ => some (run, c)

/-- The blanks and parts of a quoted scalar up to its closing quote. -/
def quotedParts? (double : Bool) : Nat → Cursor → Option (List Char × Cursor)
  | 0, _ => none
  | fuel + 1, c =>
    if c.peek = some (if double then '"' else '\'') then some ([], c.next)
    else do
      let (blanks, c) ← c.quotedSpaces?
      let (word, c) ← quotedWord? double (c.rest.length + 1) c
      let (more, c) ← quotedParts? double fuel c
      return (blanks ++ word ++ more, c)

/-- A scalar between quotes. -/
def quotedScalar? (double : Bool) (c : Cursor) : Option (List Char × Cursor) := do
  let c := c.next
  let (word, c) ← quotedWord? double (c.rest.length + 1) c
  let (more, c) ← quotedParts? double (c.rest.length + 1) c
  return (word ++ more, c)

/-! ## Blocks of lines -/

/-- What the line of a block's indicator asks for: whether line ends at the end are all kept
(`some true`), all dropped (`some false`) or reduced to one, and by how much the block is
indented. -/
structure BlockHeader where
  keep : Option Bool
  indent : Option Nat

/-- A sign that tells which line ends are kept. -/
def chomp? (c : Option Char) : Option Bool :=
  match c with
  | some '+' => some true
  | some '-' => some false
  | _ => none

/-- A digit that tells the indentation. -/
def indentDigit? (c : Option Char) : Option Nat :=
  match c with
  | some d => if d.isDigit then some (d.toNat - 48) else none
  | none => none

/-- The header of a block. -/
def blockHeader? (c : Cursor) : Option (BlockHeader × Cursor) := do
  let (header, c) := match chomp? c.peek with
    | some keep =>
      match indentDigit? c.next.peek with
      | some n => (BlockHeader.mk (some keep) (some n), c.skip 2)
      | none => (⟨some keep, none⟩, c.next)
    | none =>
      match indentDigit? c.peek with
      | some n =>
        match chomp? c.next.peek with
        | some keep => (⟨some keep, some n⟩, c.skip 2)
        | none => (⟨none, some n⟩, c.next)
      | none => (⟨none, none⟩, c)
  if header.indent = some 0 || !endsWord c.peek then none
  let c ← c.skipLineEnd?
  return (header, c)

/-- The blank lines in front of a block, the greatest column that their spaces reach, and the
place of the first line with text. -/
def leadingLines : Nat → Nat → Cursor → List Char × Nat × Cursor
  | 0, reach, c => ([], reach, c)
  | fuel + 1, reach, c =>
    if c.peek = some ' ' then
      let c := c.next
      leadingLines fuel (max reach c.column) c
    else match c.lineBreak? with
      | some (b, c) =>
        let (bs, reach, c) := leadingLines fuel reach c
        (b :: bs, reach, c)
      | none => ([], reach, c)

/-- The place behind spaces that do not reach beyond the indentation. -/
def skipIndent (indent : Nat) : Nat → Cursor → Cursor
  | 0, c => c
  | fuel + 1, c =>
    if c.column < indent && c.peek = some ' ' then skipIndent indent fuel c.next else c

/-- The blank lines inside a block, and the place of the next line with text. -/
def blankLines (indent : Nat) : Nat → Cursor → List Char × Cursor
  | 0, c => ([], c)
  | fuel + 1, c =>
    let c := skipIndent indent (c.rest.length + 1) c
    match c.lineBreak? with
    | some (b, c) =>
      let (bs, c) := blankLines indent fuel c
      (b :: bs, c)
    | none => ([], c)

/-- The lines of a block from a line with text on, behind the blank lines `breaks`. -/
def blockLines (folded : Bool) (keep : Option Bool) (indent : Nat) :
    Nat → List Char → Cursor → List Char × Cursor
  | 0, _, c => ([], c)
  | fuel + 1, breaks, c =>
    let isSpaced (x : Option Char) : Bool := x = some ' ' || x = some '\t'
    let spaced := isSpaced c.peek
    let (line, c) := c.takeWhile (!isBreak ·)
    let (ending, c) := match c.lineBreak? with
      | some (b, c) => ([b], c)
      | none => ([], c)
    let (more, c) := blankLines indent (c.rest.length + 1) c
    if c.column = indent && c.peek.isSome then
      let joint :=
        if folded && ending = ['\n'] && !spaced && !isSpaced c.peek then
          (if more.isEmpty then [' '] else [])
        else ending
      let (tail, c) := blockLines folded keep indent fuel more c
      (breaks ++ line ++ joint ++ tail, c)
    else
      let tail := match keep with
        | some false => []
        | none => ending
        | some true => ending ++ more
      (breaks ++ line ++ tail, c)

/-- A scalar of lines inside a collection with the given indentation. -/
def blockScalar? (folded : Bool) (parentIndent : Int) (c : Cursor) :
    Option (List Char × Cursor) := do
  let (header, c) ← c.next.blockHeader?
  let least := (max (parentIndent + 1) 1).toNat
  let fuel := c.rest.length + 1
  let (breaks, indent, c) := match header.indent with
    | none =>
      let (breaks, reach, c) := leadingLines fuel 0 c
      (breaks, max least reach, c)
    | some n =>
      let indent := least + n - 1
      let (breaks, c) := blankLines indent fuel c
      (breaks, indent, c)
  if c.column = indent && c.peek.isSome then
    return blockLines folded header.keep indent fuel breaks c
  else
    return (if header.keep = some true then breaks else [], c)

/-! ## Plain scalars -/

/-- Whether a plain scalar ends at a character with the given one behind it. -/
def endsPlain (inFlow : Bool) (x : Char) (following : Option Char) : Bool :=
  let inside (x : Char) : Bool := x = ',' || x = '[' || x = ']' || x = '\x7b' || x = '\x7d'
  isBlank x ||
    (x = ':' && (endsToken following || (inFlow && following.any inside))) ||
    (inFlow && (x = '?' || inside x))

/-- The characters of a plain scalar up to a blank or its end. -/
def plainWord (inFlow : Bool) : List Char → List Char
  | [] => []
  | x :: rest => if endsPlain inFlow x rest.head? then [] else x :: plainWord inFlow rest

/-- Blank lines behind a line of a plain scalar; none at a line that separates documents. -/
def plainBreaks? : Nat → Cursor → Option (List Char) × Cursor
  | 0, c => (none, c)
  | fuel + 1, c =>
    if c.peek = some ' ' then plainBreaks? fuel c.next
    else match c.lineBreak? with
      | none => (some [], c)
      | some (b, c) =>
        if c.atSeparator then (none, c)
        else
          let (bs, c) := plainBreaks? fuel c
          (bs.map (b :: ·), c)

/-- The blanks behind a word of a plain scalar, the place behind them, and whether a line ended
among them. -/
def plainSpaces (c : Cursor) : List Char × Cursor × Bool :=
  let (blanks, c) := c.takeWhile (· = ' ')
  match c.lineBreak? with
  | none => (blanks, c, false)
  | some (b, c) =>
    if c.atSeparator then ([], c, true)
    else match plainBreaks? (c.rest.length + 1) c with
      | (none, c) => ([], c, true)
      | (some bs, c) => (foldBreaks b bs, c, true)

/-- The words of a plain scalar, `spaces` being the blanks before the next one. The flag says
whether a line ended since the last word. -/
def plainWords (inFlow : Bool) (indent : Int) :
    Nat → List Char → Bool → Cursor → List Char × Cursor × Bool
  | 0, _, lineEnded, c => ([], c, lineEnded)
  | fuel + 1, spaces, lineEnded, c =>
    let word := plainWord inFlow c.rest
    if c.peek = some '#' || word.isEmpty then ([], c, lineEnded)
    else
      let (blanks, c, ended) := (c.skip word.length).plainSpaces
      if blanks.isEmpty || c.peek = some '#' || (!inFlow && (c.column : Int) < indent) then
        (spaces ++ word, c, ended)
      else
        let (more, c, ended) := plainWords inFlow indent fuel blanks ended c
        (spaces ++ word ++ more, c, ended)

/-- A plain scalar inside a collection with the given indentation, and whether a line ended behind
its last word. -/
def plainScalar (inFlow : Bool) (parentIndent : Int) (c : Cursor) : List Char × Cursor × Bool :=
  plainWords inFlow (parentIndent + 1) (c.rest.length + 1) [] false c

end Cursor

end DeviceGrant.Yaml
