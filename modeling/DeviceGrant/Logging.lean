import DeviceGrant.Settings
set_option autoImplicit false

/-! # The level and layout of log lines

A deployment names the level below which events are dropped. A name that is no level means INFO,
but two names stand for something else than a level and are refused. The layout of a line must
have at least one field, such as `%(message)s`; an empty one means the layout by default. -/

namespace DeviceGrant.Logging

/-- The level of log lines when none is recognised. -/
def info : Nat := 20

/-- What a level name in capitals stands for. -/
inductive Named
  | level (n : Nat)
  | text (s : String)
  | table (quoted : String)
deriving DecidableEq, Repr

/-- The layout that stands for the name `BASIC_FORMAT`. -/
def basicFormat : String := "%(levelname)s:%(name)s:%(message)s"

/-- The table of layout styles as a message shows it. -/
def stylesQuoted : String :=
  "\x7b'%': (<class 'logging.PercentStyle'>, '%(levelname)s:%(name)s:%(message)s'), '\x7b': " ++
    "(<class 'logging.StrFormatStyle'>, '\x7blevelname\x7d:\x7bname\x7d:\x7bmessage\x7d'), '$': " ++
    "(<class 'logging.StringTemplateStyle'>, '$\x7blevelname\x7d:$\x7bname\x7d:$\x7bmessage\x7d')\x7d"

/-- What a name in capitals stands for. -/
def named (s : String) : Named :=
  match s with
  | "CRITICAL" => .level 50
  | "FATAL" => .level 50
  | "ERROR" => .level 40
  | "WARNING" => .level 30
  | "WARN" => .level 30
  | "INFO" => .level 20
  | "DEBUG" => .level 10
  | "NOTSET" => .level 0
  | "BASIC_FORMAT" => .text basicFormat
  | "_STYLES" => .table stylesQuoted
  | _ => .level info

/-- The capitals of a character, where these are ASCII; other characters stay. -/
def capitals (c : Char) : List Char :=
  match c.toNat with
  | 0xDF => ['S', 'S']
  | 0x131 => ['I']
  | 0x17F => ['S']
  | 0xFB00 => ['F', 'F']
  | 0xFB01 => ['F', 'I']
  | 0xFB02 => ['F', 'L']
  | 0xFB03 => ['F', 'F', 'I']
  | 0xFB04 => ['F', 'F', 'L']
  | 0xFB05 => ['S', 'T']
  | 0xFB06 => ['S', 'T']
  | _ => [c.toUpper]

/-- A name in capitals. -/
def upper (s : String) : String := String.ofList (s.toList.flatMap capitals)

/-! ## Layouts -/

/-- The letters that end a field, in either case. -/
def isConversion (c : Char) : Bool :=
  "diouxefgcrsa%".toList.contains c.toLower || c.toNat = 0x130 || c.toNat = 0x131 || c.toNat = 0x17F

/-- A flag of a field. -/
def isFlag (c : Char) : Bool := "#0+ -".toList.contains c

/-- A decimal digit of any script. -/
def isDigit (c : Char) : Bool := (Text.digitValue? c).isSome

/-- The rests behind a width: behind `*`, behind any number of digits, or behind nothing. -/
def afterWidth : List Char → List (List Char)
  | '*' :: cs => [cs, '*' :: cs]
  | cs => [cs.dropWhile isDigit]

/-- The rests behind a precision: a point and a width. -/
def afterPrecision : List Char → List (List Char)
  | '.' :: '*' :: cs => ['.' :: '*' :: cs, cs]
  | '.' :: cs =>
    if cs.head?.any isDigit then ['.' :: cs, cs.dropWhile isDigit] else ['.' :: cs]
  | cs => [cs]

/-- Whether a field starts behind a percent sign: a name in parentheses, flags, a width, a
precision and a letter. -/
def startsField : List Char → Bool
  | '(' :: cs =>
    let name := cs.takeWhile Text.isWordChar
    match cs.drop name.length with
    | ')' :: rest =>
      !name.isEmpty && (afterWidth (rest.dropWhile isFlag)).any fun rest =>
        (afterPrecision rest).any fun rest => rest.head?.any isConversion
    | _ => false
  | _ => false

/-- Whether a layout has a field. -/
def hasField : List Char → Bool
  | [] => false
  | c :: cs => (c = '%' && startsField cs) || hasField cs

/-- The level that a deployment logs from on, or why its settings cannot be followed. -/
def configure (s : Settings) : Except Failure Nat :=
  if !s.logFormat.isEmpty && !hasField s.logFormat.toList then .error (.logLayout s.logFormat)
  else match named (upper s.logLevel) with
    | .level n => .ok n
    | .text t => .error (.unknownLevel t)
    | .table q => .error (.levelKind q)

end DeviceGrant.Logging
