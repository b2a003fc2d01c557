import DeviceGrant.Text.Digit
import DeviceGrant.Yaml.Scalar
set_option autoImplicit false

/-! # YAML tokens

A YAML text is first cut into tokens. Some of them are not written: the start of a block
collection, its end where the indentation goes back, and the mark of a key, which is only known to
be one when its `:` is met. The lexer therefore remembers, for each level of brackets, the last
place where a key may have started; a key lies within one line and 1024 characters.

`Token.ofText?` gives the tokens of a whole text, or nothing when some piece of it is no token. -/

namespace DeviceGrant.Yaml

/-- A token. -/
inductive Token
  | versionDirective (major : Nat)
  | tagDirective (handle lead : List Char)
  | otherDirective
  | documentStart
  | documentEnd
  | blockSequenceStart
  | blockMappingStart
  | blockEnd
  | flowSequenceStart
  | flowSequenceEnd
  | flowMappingStart
  | flowMappingEnd
  | blockEntry
  | flowEntry
  | key
  | value
  | alias (name : List Char)
  | anchor (name : List Char)
  | tag (handle : Option (List Char)) (suffix : List Char)
  | scalar (text : List Char) (plain : Bool)
deriving DecidableEq, Repr

/-- A place where a key may have started, and whether one has to. -/
structure KeyStart where
  level : Nat
  tokenIndex : Nat
  required : Bool
  index : Nat
  line : Nat
  column : Nat

/-- The state of the lexer: where it is, the tokens so far, the open brackets, the indentation of
the open block collections, and the places where keys may have started. -/
structure Lexer where
  cursor : Cursor
  tokens : Array Token
  level : Nat
  indent : Int
  outerIndents : List Int
  keyAllowed : Bool
  keyStarts : List KeyStart

namespace Lexer

/-- A token that goes to the end. -/
def push (x : Lexer) (t : Token) : Lexer := { x with tokens := x.tokens.push t }

/-- A token that goes before the one at an index. -/
def pushAt (x : Lexer) (i : Nat) (t : Token) : Lexer :=
  { x with tokens := (x.tokens.extract 0 i).push t ++ x.tokens.extract i x.tokens.size }

/-- The same state at another place. -/
def moveTo (x : Lexer) (c : Cursor) : Lexer := { x with cursor := c }

/-! ## Keys and indentation -/

/-- Forgets the possible keys that have become too long; an error when one of them is required. -/
def dropStaleKeys? (x : Lexer) : Option Lexer :=
  let stale (k : KeyStart) : Bool :=
    k.line ≠ x.cursor.line || 1024 < x.cursor.index - k.index
  if x.keyStarts.any fun k => stale k && k.required then none
  else some { x with keyStarts := x.keyStarts.filter fun k => !stale k }

/-- Forgets the possible key of the current level; an error when it is required. -/
def dropKey? (x : Lexer) : Option Lexer :=
  if x.keyStarts.any fun k => k.level = x.level && k.required then none
  else some { x with keyStarts := x.keyStarts.filter fun k => k.level ≠ x.level }

/-- Remembers that a key may start here, where one is allowed. -/
def saveKey? (x : Lexer) : Option Lexer :=
  if x.keyAllowed then do
    let required := x.level = 0 && x.indent = x.cursor.column
    let start : KeyStart := ⟨x.level, x.tokens.size, required, x.cursor.index, x.cursor.line,
      x.cursor.column⟩
    let x ← x.dropKey?
    return { x with keyStarts := start :: x.keyStarts }
  else some x

/-- Ends the block collections that are indented beyond a column. -/
def unwindTo (column : Int) : List Int → Lexer → Lexer
  | [], x => x
  | outer :: more, x =>
    if x.level = 0 && column < x.indent then
      unwindTo column more
        { x with indent := outer, outerIndents := more, tokens := x.tokens.push .blockEnd }
    else x

/-- Ends the block collections that are indented beyond a column. -/
def unwind (x : Lexer) (column : Int) : Lexer := unwindTo column x.outerIndents x

/-- Opens a block collection at a column beyond the current indentation, and says whether it
did. -/
def addIndent (x : Lexer) (column : Nat) : Bool × Lexer :=
  if x.indent < column then
    (true, { x with outerIndents := x.indent :: x.outerIndents, indent := column })
  else (false, x)

/-! ## Single tokens -/

/-- A token of one character. -/
def pushIndicator (x : Lexer) (t : Token) : Lexer := (x.push t).moveTo x.cursor.next

/-- The opening bracket of a flow collection. -/
def openFlow? (x : Lexer) (t : Token) : Option Lexer := do
  let x ← x.saveKey?
  return { x with level := x.level + 1, keyAllowed := true }.pushIndicator t

/-- The closing bracket of a flow collection. -/
def closeFlow? (x : Lexer) (t : Token) : Option Lexer := do
  let x ← x.dropKey?
  if x.level = 0 then none
  else return { x with level := x.level - 1, keyAllowed := false }.pushIndicator t

/-- The comma between the entries of a flow collection. -/
def flowEntry? (x : Lexer) : Option Lexer := do
  let x ← { x with keyAllowed := true }.dropKey?
  return x.pushIndicator .flowEntry

/-- Opens a block collection where the current token starts one. -/
def startBlock? (x : Lexer) (t : Token) : Option Lexer :=
  if x.level = 0 then
    if x.keyAllowed then
      match x.addIndent x.cursor.column with
      | (true, x) => some (x.push t)
      | (false, x) => some x
    else none
  else some x

/-- The hyphen before an entry of a block sequence. -/
def blockEntry? (x : Lexer) : Option Lexer := do
  let x ← x.startBlock? .blockSequenceStart
  let x ← { x with keyAllowed := true }.dropKey?
  return x.pushIndicator .blockEntry

/-- The question mark before a key. -/
def explicitKey? (x : Lexer) : Option Lexer := do
  let x ← x.startBlock? .blockMappingStart
  let x ← { x with keyAllowed := x.level = 0 }.dropKey?
  return x.pushIndicator .key

/-- The colon before a value. Where a key may have started on the current level, its mark is put
there now. -/
def value? (x : Lexer) : Option Lexer :=
  match x.keyStarts.find? fun k => k.level = x.level with
  | some k =>
    let x := { x with keyStarts := x.keyStarts.filter fun k => k.level ≠ x.level }
    let x := x.pushAt k.tokenIndex .key
    let x := if x.level = 0 then
        match x.addIndent k.column with
        | (true, x) => x.pushAt k.tokenIndex .blockMappingStart
        | (false, x) => x
      else x
    some ({ x with keyAllowed := false }.pushIndicator .value)
  | none => do
    let x ← x.startBlock? .blockMappingStart
    let x ← { x with keyAllowed := x.level = 0 }.dropKey?
    return x.pushIndicator .value

/-- The name of an anchor or an alias behind its sign. -/
def anchorName? (c : Cursor) : Option (List Char × Cursor) :=
  let (name, c) := c.next.takeWhile isNameChar
  let follows : Bool := match c.peek with
    | none => true
    | some x => isBlank x || "?:,]\x7d%@\x60".toList.contains x
  if name.isEmpty || !follows then none else some (name, c)

/-- The octets of percent escapes, and the place behind them. -/
def uriEscapes? : Nat → Cursor → Option (List UInt8 × Cursor)
  | 0, _ => none
  | fuel + 1, c =>
    if c.peek = some '%' then do
      let n ← Cursor.hexNumber? 2 c.next.rest
      let (more, c) ← uriEscapes? fuel (c.skip 3)
      return (UInt8.ofNat n :: more, c)
    else some ([], c)

/-- A character of the suffix of a tag. -/
def isUriChar (c : Char) : Bool :=
  c.isAlphanum || "-;/?:@&=+$,_.!~*'()[]".toList.contains c

/-- The characters of the suffix of a tag, percent escapes resolved. -/
def tagUriParts? : Nat → Cursor → Option (List Char × Cursor)
  | 0, _ => none
  | fuel + 1, c =>
    let (run, c) := c.takeWhile isUriChar
    if c.peek = some '%' then do
      let (octets, c) ← uriEscapes? (c.rest.length + 1) c
      let s ← Text.utf8Decode? octets
      let (more, c) ← tagUriParts? fuel c
      return (run ++ s.toList ++ more, c)
    else some (run, c)

/-- The suffix of a tag, which is not empty. -/
def tagUri? (c : Cursor) : Option (List Char × Cursor) :=
  match c.peek with
  | some x => if isUriChar x || x = '%' then tagUriParts? (c.rest.length + 1) c else none
  | none => none

/-- The handle of a tag: one exclamation mark, or a name between two. -/
def tagHandle? (c : Cursor) : Option (List Char × Cursor) :=
  if c.peek ≠ some '!' then none
  else if c.peekAt 1 = some ' ' then some (['!'], c.next)
  else
    let (name, c) := c.next.takeWhile isNameChar
    if c.peek = some '!' then some ('!' :: name ++ ['!'], c.next) else none

/-- Whether a second exclamation mark stands before the end of the word. -/
def hasHandle (c : Cursor) : Bool :=
  (c.next.rest.takeWhile fun x => !endsWord (some x)).contains '!'

/-- A tag. -/
def tag? (c : Cursor) : Option (Token × Cursor) := do
  let (t, c) ←
    if c.peekAt 1 = some '<' then do
      let (suffix, c) ← tagUri? (c.skip 2)
      if c.peek = some '>' then some (Token.tag none suffix, c.next) else none
    else if endsToken (c.peekAt 1) then some (Token.tag none ['!'], c.next)
    else if hasHandle c then do
      let (handle, c) ← tagHandle? c
      let (suffix, c) ← tagUri? c
      some (Token.tag (some handle) suffix, c)
    else do
      let (suffix, c) ← tagUri? c.next
      some (Token.tag (some ['!']) suffix, c)
  if endsWord c.peek then some (t, c) else none

/-- A whole number in a directive. -/
def directiveNumber? (c : Cursor) : Option (Nat × Cursor) :=
  let (ds, c) := c.takeWhile Char.isDigit
  if ds.isEmpty then none else some (Text.digitsValue ds, c)

/-- The version of a version directive. -/
def versionDirective? (c : Cursor) : Option (Token × Cursor) := do
  let (major, c) ← directiveNumber? c.skipSpaces
  if c.peek ≠ some '.' then none
  let (_, c) ← directiveNumber? c.next
  if endsWord c.peek then some (.versionDirective major, c) else none

/-- The handle and the text it stands for of a tag directive. -/
def tagDirective? (c : Cursor) : Option (Token × Cursor) := do
  let (handle, c) ← tagHandle? c.skipSpaces
  if c.peek ≠ some ' ' then none
  let (lead, c) ← tagUri? c.skipSpaces
  if endsWord c.peek then some (.tagDirective handle lead, c) else none

/-- A directive with its line. -/
def directive? (c : Cursor) : Option (Token × Cursor) := do
  let (name, c) := c.next.takeWhile isNameChar
  if name.isEmpty || !endsWord c.peek then none
  let (t, c) ←
    if name = "YAML".toList then versionDirective? c
    else if name = "TAG".toList then tagDirective? c
    else some (.otherDirective, c.dropWhile (!isBreak ·))
  let c ← c.skipLineEnd?
  return (t, c)

/-! ## The next token -/

/-- The place of the next token, behind spaces, comments and line ends. After a line end outside
of brackets a key may start. -/
def toNextToken : Nat → Lexer → Lexer
  | 0, x => x
  | fuel + 1, x =>
    let c := x.cursor.skipSpaces.skipComment
    match c.lineBreak? with
    | some (_, c) =>
      toNextToken fuel
        { x with cursor := c, keyAllowed := x.keyAllowed || x.level = 0 }
    | none => x.moveTo c

/-- Whether a plain scalar starts here. -/
def startsPlain (inFlow : Bool) (x : Char) (following : Option Char) : Bool :=
  (!isBlank x && !"-?:,[]\x7b\x7d#&*!|>'\"%@\x60".toList.contains x) ||
    (!endsToken following && (x = '-' || (!inFlow && (x = '?' || x = ':'))))

/-- Ends all block collections before a document mark or a directive. -/
def endBlocks? (x : Lexer) : Option Lexer := do
  let x ← (x.unwind (-1)).dropKey?
  return { x with keyAllowed := false }

/-- The token that starts with a character, after blanks and closed blocks are dealt with. -/
def step? (x : Lexer) (ch : Char) : Option Lexer :=
  let c := x.cursor
  let inFlow := x.level ≠ 0
  let indicates := inFlow || endsToken (c.peekAt 1)
  if ch = '%' && c.column = 0 then do
    let x ← x.endBlocks?
    let (t, c) ← directive? c
    return (x.push t).moveTo c
  else if c.column = 0 && c.atMarker '-' then do
    return ((← x.endBlocks?).push .documentStart).moveTo (c.skip 3)
  else if c.column = 0 && c.atMarker '.' then do
    return ((← x.endBlocks?).push .documentEnd).moveTo (c.skip 3)
  else if ch = '[' then x.openFlow? .flowSequenceStart
  else if ch = '\x7b' then x.openFlow? .flowMappingStart
  else if ch = ']' then x.closeFlow? .flowSequenceEnd
  else if ch = '\x7d' then x.closeFlow? .flowMappingEnd
  else if ch = ',' then x.flowEntry?
  else if ch = '-' && endsToken (c.peekAt 1) then x.blockEntry?
  else if ch = '?' && indicates then x.explicitKey?
  else if ch = ':' && indicates then x.value?
  else if ch = '*' || ch = '&' then do
    let x ← x.saveKey?
    let (name, c) ← anchorName? c
    return ({ x with keyAllowed := false }.push
      (if ch = '*' then .alias name else .anchor name)).moveTo c
  else if ch = '!' then do
    let x ← x.saveKey?
    let (t, c) ← tag? c
    return ({ x with keyAllowed := false }.push t).moveTo c
  else if (ch = '|' || ch = '>') && !inFlow then do
    let x ← { x with keyAllowed := true }.dropKey?
    let (text, c) ← c.blockScalar? (ch = '>') x.indent
    return (x.push (.scalar text false)).moveTo c
  else if ch = '\'' || ch = '"' then do
    let x ← x.saveKey?
    let (text, c) ← c.quotedScalar? (ch = '"')
    return ({ x with keyAllowed := false }.push (.scalar text false)).moveTo c
  else if startsPlain inFlow ch (c.peekAt 1) then do
    let x ← x.saveKey?
    let (text, c, lineEnded) := c.plainScalar inFlow x.indent
    return ({ x with keyAllowed := lineEnded }.push (.scalar text true)).moveTo c
  else none

/-- All further tokens. -/
def run? : Nat → Lexer → Option (Array Token)
  | 0, _ => none
  | fuel + 1, x => do
    let x ← (toNextToken (x.cursor.rest.length + 1) x).dropStaleKeys?
    let x := x.unwind x.cursor.column
    match x.cursor.peek with
    | none => return (← x.endBlocks?).tokens
    | some ch =>
      let x ← x.step? ch
      run? fuel x

end Lexer

/-- Whether a character may stand in a YAML text. -/
def isTextChar (c : Char) : Bool :=
  let n := c.toNat
  n = 9 || n = 10 || n = 13 || (0x20 ≤ n && n ≤ 0x7E) || n = 0x85 || (0xA0 ≤ n && n ≤ 0xD7FF) ||
    (0xE000 ≤ n && n ≤ 0xFFFD) || 0x10000 ≤ n

/-- The tokens of a text. A byte order mark at its start is passed over. -/
def Token.ofText? (cs : List Char) : Option (List Token) :=
  if cs.all isTextChar then
    let c := Cursor.start cs
    let c := if c.peek = some (Char.ofNat 0xFEFF) then c.next else c
    (Lexer.run? (cs.length + 2) ⟨c, #[], 0, -1, [], true, []⟩).map (·.toList)
  else none

end DeviceGrant.Yaml
