import DeviceGrant.Event
import DeviceGrant.Number.Numeral
import DeviceGrant.Text.Split
set_option autoImplicit false

/-! # The command line

The server is started with the host and the port to listen on. An option may be shortened as long
as only one begins that way, and its value stands behind an equals sign or is the next argument.

All arguments are classified before the first one takes effect, so an ambiguous option anywhere is
reported first. Arguments that are no option's value, and all that follow `--`, are unrecognized;
they are reported together after everything else has been accepted. -/

namespace DeviceGrant.CommandLine

/-- The name under which the server reports. -/
def program : String := "device-auth-server"

/-- Where the server listens. -/
structure Options where
  host : String
  port : Int
deriving DecidableEq, Repr

/-- Where the server listens when no argument says otherwise. -/
def Options.default : Options := ⟨"0.0.0.0", 8888⟩

/-- An option that takes a value. -/
inductive Setting
  | host
  | port
deriving DecidableEq, Repr

/-- An option. -/
inductive Choice
  | help
  | setting (s : Setting)
deriving DecidableEq, Repr

/-- The spellings of the options, in the order in which they are listed. -/
def spellings : List (String × Choice) :=
  [("-h", .help), ("--help", .help), ("--host", .setting .host), ("--port", .setting .port)]

/-- The name of a setting in reports. -/
def Setting.name : Setting → String
  | .host => "--host"
  | .port => "--port"

/-- Why the arguments cannot be followed. -/
inductive Fault
  | ambiguous (argument : String) (candidates : List String)
  | valueMissing (s : Setting)
  | notNumeral (s : Setting) (value : String)
  | helpWithValue (value : String)
  | unrecognized (arguments : List String)
deriving DecidableEq, Repr

/-- The message of a fault. -/
def Fault.message : Fault → String
  | ambiguous a cs => "ambiguous option: " ++ a ++ " could match " ++ String.intercalate ", " cs
  | valueMissing s => "argument " ++ s.name ++ ": expected one argument"
  | notNumeral s v =>
    "argument " ++ s.name ++ ": invalid int value: " ++ Text.quoted v
  | helpWithValue v => "argument -h/--help: ignored explicit argument " ++ Text.quoted v
  | unrecognized as => "unrecognized arguments: " ++ String.intercalate " " as

/-- What the arguments ask for. -/
inductive Outcome
  | serve (o : Options)
  | help
  | fault (f : Fault)
deriving DecidableEq, Repr

/-- The line that shows how the server is started. -/
def usage : String := "usage: " ++ program ++ " [-h] [--host HOST] [--port PORT]"

/-- The text that is shown to someone who asks for help. -/
def helpText : String :=
  usage ++ "\n\nDevice Authorization Server\n\noptions:\n" ++
    "  -h, --help   show this help message and exit\n" ++
    "  --host HOST  Host for the server to listen on (default: " ++ Options.default.host ++ ")\n" ++
    "  --port PORT  Port for the server to listen on (default: " ++
    toString Options.default.port ++ ")"

/-- The lines that report a fault. -/
def Fault.report (f : Fault) : String := usage ++ "\n" ++ program ++ ": error: " ++ f.message

/-! ## Classifying arguments -/

/-- How an argument is read. -/
inductive Reading
  /-- The mark behind which no argument is an option. -/
  | mark
  /-- An argument that may be the value of an option. -/
  | operand
  /-- An argument that looks like an option and is none. -/
  | stranger
  /-- A request for help, or the text attached to it that does not belong there. -/
  | help (misplaced : Option String)
  /-- A setting, perhaps with its value attached. -/
  | setting (s : Setting) (value : Option String)
deriving DecidableEq, Repr

/-- The text that does not belong behind a single letter `h`: what follows an equals sign, or a
hyphen and what follows it. Further letters may follow, and only `h` is looked at. -/
def misplacedInCluster : List Char → Option String
  | [] => none
  | '=' :: cs => some (String.ofList cs)
  | '-' :: cs => some (String.ofList ('-' :: cs))
  | 'h' :: cs => misplacedInCluster cs
  | _ => none

/-- The reading of an option with or without an attached value. -/
def Choice.reading (c : Choice) (value : Option String) : Reading :=
  match c with
  | .help => .help value
  | .setting s => .setting s value

/-- Whether an argument is a negative number; a line end behind it is passed over. -/
def isNegativeNumber (cs : List Char) : Bool :=
  let isDigit (c : Char) : Bool := (Text.digitValue? c).isSome
  match cs with
  | '-' :: cs =>
    let cs := if cs.getLast? = some '\n' then cs.dropLast else cs
    match cs.dropWhile isDigit with
    | [] => !cs.isEmpty
    | '.' :: places => !places.isEmpty && places.all isDigit
    | _ => false
  | _ => false

/-- The reading of an argument that no option begins with. -/
def readUnknown (cs : List Char) : Reading :=
  if isNegativeNumber cs || cs.contains ' ' then .operand else .stranger

/-- An argument cut at its first equals sign. -/
def cutValue (cs : List Char) : String × Option String :=
  match Text.cutFirst? '=' cs with
  | some (name, value) => (String.ofList name, some (String.ofList value))
  | none => (String.ofList cs, none)

/-- The reading of an argument before any mark. -/
def classify (argument : String) : Except Fault Reading :=
  let cs := argument.toList
  match cs with
  | '-' :: second :: rest =>
    match spellings.lookup argument with
    | some c => .ok (c.reading none)
    | none =>
      if second = '-' then
        let (name, value) := cutValue cs
        match spellings.lookup name with
        | some c => .ok (c.reading value)
        | none =>
          match spellings.filter fun e => name.toList.isPrefixOf e.1.toList with
          | [] => .ok (readUnknown cs)
          | [(_, c)] => .ok (c.reading value)
          | several => .error (.ambiguous argument (several.map (·.1)))
      else if second = 'h' then .ok (.help (misplacedInCluster rest))
      else .ok (readUnknown cs)
  | _ => .ok .operand

/-- The arguments with their readings. -/
def classifyAll : List String → Except Fault (List (String × Reading))
  | [] => .ok []
  | a :: as =>
    if a = "--" then .ok ((a, .mark) :: as.map fun b => (b, .operand))
    else do
      let r ← classify a
      let rs ← classifyAll as
      return (a, r) :: rs

/-! ## Following arguments -/

/-- The options after one setting gets a value. -/
def Options.assign (o : Options) (s : Setting) (value : String) : Except Fault Options :=
  match s with
  | .host => .ok { o with host := value }
  | .port => match Number.Numeral.int? 10 value.toList with
    | some n => .ok { o with port := n }
    | none => .error (.notNumeral s value)

/-- What classified arguments ask for, after some that set the given options and some that were
not recognized. -/
def follow (o : Options) (strange : List String) : List (String × Reading) → Outcome
  | [] => if strange.isEmpty then .serve o else .fault (.unrecognized strange)
  | (_, .help none) :: _ => .help
  | (_, .help (some v)) :: _ => .fault (.helpWithValue v)
  | (_, .setting s (some v)) :: rest =>
    match o.assign s v with
    | .ok o => follow o strange rest
    | .error f => .fault f
  | (_, .setting s none) :: (v, .operand) :: rest =>
    match o.assign s v with
    | .ok o => follow o strange rest
    | .error f => .fault f
  | (_, .setting s none) :: _ => .fault (.valueMissing s)
  | (a, .mark) :: rest => follow o (strange ++ [a]) rest
  | (a, .operand) :: rest => follow o (strange ++ [a]) rest
  | (a, .stranger) :: rest => follow o (strange ++ [a]) rest

/-- What arguments ask for. -/
def read (arguments : List String) : Outcome :=
  match classifyAll arguments with
  | .error f => .fault f
  | .ok readings => follow .default [] readings

end DeviceGrant.CommandLine
