import DeviceGrant.Value
import DeviceGrant.Yaml.Node
set_option autoImplicit false

/-! # Values of YAML texts

`Yaml.load?` gives the value of a text: its tokens, its document of nodes, the objects that the
nodes stand for, and the tree of values that is seen from the root.

An object of a collection is started before its members are, and filled when those before it have
been, so a collection may be a member of itself. Just before a mapping is filled, its merge entries
are replaced by the entries of the mappings they name. These come first, so that the mapping's own
entries win, and of several named mappings the first one wins.

A text that is no well-formed document, a node whose text does not fit its tag, a tag without
meaning and a key that cannot be one make the whole text an error. -/

namespace DeviceGrant.Yaml

/-! ## Scalars -/

namespace Node

/-- The boolean of a word. -/
def boolValue? (s : List Char) : Option Bool :=
  let w := Text.lowerAscii (String.ofList s)
  if ["yes", "true", "on"].contains w then some true
  else if ["no", "false", "off"].contains w then some false
  else none

/-- The numbers of the parts of a numeral to base sixty, added up. -/
def sixtieths? (parts : List (List Char)) : Option Int :=
  parts.foldl (fun n p => do return (← n) * 60 + (← Number.Numeral.int? 10 p)) (some 0)

/-- The whole number of a numeral in one of the forms of the format. -/
def intValue? (s : List Char) : Option Int := do
  let s := s.filter (· ≠ '_')
  let unsigned := match s with
    | '-' :: rest => rest
    | '+' :: rest => rest
    | s => s
  let n ← match unsigned with
    | [] => none
    | ['0'] => some 0
    | '0' :: 'b' :: ds => Number.Numeral.int? 2 ds
    | '0' :: 'x' :: ds => Number.Numeral.int? 16 ds
    | '0' :: _ => Number.Numeral.int? 8 unsigned
    | _ =>
      if unsigned.contains ':' then sixtieths? (Text.splitOn ':' unsigned)
      else Number.Numeral.int? 10 unsigned
  return if s.head? = some '-' then -n else n

/-- The double of a numeral in one of the forms of the format. -/
def floatValue? (s : List Char) : Option Number.Binary64 := do
  let s := (s.filter (· ≠ '_')).map Char.toLower
  let unsigned := match s with
    | '-' :: rest => rest
    | '+' :: rest => rest
    | s => s
  if s.isEmpty then none
  let negative := s.head? = some '-'
  if unsigned = ".nan".toList then return .nan
  let x ←
    if unsigned = ".inf".toList then some (.infinite false)
    else if unsigned.contains ':' then
      let parts := (Text.splitOn ':' unsigned).reverse
      let step (acc : Option (Number.Binary64 × Int)) (p : List Char) :
          Option (Number.Binary64 × Int) := do
        let (sum, base) ← acc
        let x ← Number.Numeral.float? p
        match Number.Binary64.ofInt base with
        | .infinite _ => none
        | b => return (sum.add (x.mul b), base * 60)
      (parts.foldl step (some (.zero false, 1))).map (·.1)
    else Number.Numeral.float? unsigned
  return if negative then x.neg else x

/-- The first six digits of a fraction, as microseconds. -/
def microseconds (ds : List Char) : Nat :=
  let ds := ds.take 6
  Text.digitsValue (ds ++ List.replicate (6 - ds.length) '0')

/-- The date or timestamp of a text, if the calendar has it. -/
def momentValue? (s : List Char) : Option Value := do
  let m ← Tag.moment? s
  let date ← Date.ofParts? m.year m.month m.day
  match m.time with
  | none => return .date date
  | some (h, min, sec, fraction, offset) =>
    let t ← Timestamp.ofParts? date h min sec (microseconds fraction) offset
    return .timestamp t

/-- The value of a scalar by its tag. -/
def scalarValue? (t : Tag) (s : List Char) : Option Value :=
  match t with
  | .null => some .null
  | .bool => (boolValue? s).map .bool
  | .int => (intValue? s).map .int
  | .float => (floatValue? s).map .float
  | .binary =>
    if s.all fun c => c.toNat < 0x80 then (Text.base64Decode? 0 0 0 s).map .bytes else none
  | .timestamp => momentValue? s
  | .text => some (.text (String.ofList s))
  | _ => none

end Node

/-! ## Objects -/

/-- What a node stands for. The members of a collection are given by the numbers of their nodes. -/
inductive Object
  | plain (v : Value)
  | list (items : List Nat)
  | pairs (entries : List (Nat × Nat))
  | set (members : List Value)
  | map (entries : List (Value × Nat))

namespace Object

/-- What the making of objects goes through: the nodes, which change when merge entries are
replaced; the objects that have been started; those of them that are to be filled, the last one
first; and a bound on the number of merge entries. -/
structure Making where
  nodes : Array Node
  objects : Array (Option Object)
  waiting : List Nat
  bound : Nat

/-- A step in the making of objects. -/
abbrev Maker (α : Type) := StateT Making Option α

/-- The node with a number. -/
def node (i : Nat) : Maker Node := do
  match (← get).nodes[i]? with
  | some n => return n
  | none => failure

/-- Puts another node in the place of one. -/
def setNode (i : Nat) (n : Node) : Maker Unit :=
  modify fun m => { m with nodes := m.nodes.setIfInBounds i n }

/-- Gives a node its object. -/
def setObject (i : Nat) (o : Object) : Maker Unit :=
  modify fun m => { m with objects := m.objects.setIfInBounds i (some o) }

/-- The entries of a mapping. -/
def entries (i : Nat) : Maker (List (Nat × Nat)) := do
  match ← node i with
  | .mapping _ es => return es
  | _ => failure

/-- Gives a mapping other entries. -/
def setEntries (i : Nat) (es : List (Nat × Nat)) : Maker Unit := do
  setNode i (.mapping (← node i).tag es)

/-! ### Merge entries -/

/-- The value of the first merge entry, and the other entries. -/
def takeMerge? (nodes : Array Node) : List (Nat × Nat) → Option (Nat × List (Nat × Nat))
  | [] => none
  | (k, v) :: es =>
    if (nodes[k]?).map Node.tag = some .merge then some (v, es)
    else (takeMerge? nodes es).map fun (w, rest) => (w, (k, v) :: rest)

/-- Makes a text of a default sign that is a key. -/
def settleKey (k : Nat) : Maker Unit := do
  match ← node k with
  | .scalar .defaultValue s => setNode k (.scalar .text s)
  | .sequence .defaultValue items => setNode k (.sequence .text items)
  | .mapping .defaultValue es => setNode k (.mapping .text es)
  | _ => return ()

/-- Replaces the merge entries of a mapping; `inherited` are the entries that those before have
brought in. An entry is taken out before the mappings that it names are looked at, so a mapping may
be among those that it names, and every step leaves fewer merge entries. -/
def merge (inherited : List (Nat × Nat)) : Nat → Nat → Maker Unit
  | 0, _ => failure
  | bound + 1, i => do
    let es ← entries i
    match takeMerge? (← get).nodes es with
    | none =>
      es.forM fun e => settleKey e.1
      setEntries i (inherited ++ es)
    | some (v, rest) =>
      setEntries i rest
      let named ← match ← node v with
        | .mapping .. => pure [v]
        | .sequence _ items => pure items
        | .scalar .. => failure
      let found ← named.mapM fun j => do
        merge [] bound j
        entries j
      merge (inherited ++ found.reverse.flatten) bound i

/-! ### From nodes to objects -/

/-- The text of a node that has to be a scalar. A mapping with a default entry stands for the
text of that entry. -/
def text? (nodes : Array Node) : Nat → Nat → Option (List Char)
  | 0, _ => none
  | bound + 1, i => do
    match nodes[i]? with
    | some (.scalar _ s) => return s
    | some (.mapping _ es) =>
      let (_, v) ← es.find? fun e => (nodes[e.1]?).map Node.tag = some .defaultValue
      text? nodes bound v
    | _ => none

/-- Starts an object that is filled later. -/
def await (i : Nat) (o : Object) : Maker Unit := do
  setObject i o
  modify fun m => { m with waiting := i :: m.waiting }

/-- Starts the object of a node, unless it has been started. -/
def start (i : Nat) : Maker Unit := do
  let m ← get
  match (m.objects[i]?).join with
  | some _ => return ()
  | none =>
    match ← node i with
    | .sequence .list _ => await i (.list [])
    | .sequence .orderedMap _ => await i (.pairs [])
    | .sequence .pairs _ => await i (.pairs [])
    | .mapping .map _ => await i (.map [])
    | .mapping .set _ => await i (.set [])
    | n =>
      match (text? m.nodes (m.nodes.size + 1) i).bind (Node.scalarValue? n.tag) with
      | some v => setObject i (.plain v)
      | none => failure

/-- The value of a node that is a key; a collection cannot be one. -/
def key (i : Nat) : Maker Value := do
  match ((← get).objects[i]?).join with
  | some (.plain v) => return v
  | _ => failure

/-- Starts the members of a pair that is written as a mapping of one entry. -/
def startPair (i : Nat) : Maker (Nat × Nat) := do
  match ← node i with
  | .mapping _ [(k, v)] =>
    start k
    start v
    return (k, v)
  | _ => failure

/-- Starts the key and the value of an entry. -/
def startEntry (e : Nat × Nat) : Maker (Value × Nat) := do
  start e.1
  let k ← key e.1
  start e.2
  return (k, e.2)

/-- Fills an object with its members. -/
def fill (i : Nat) : Maker Unit := do
  match ← node i with
  | .scalar .. => return ()
  | .sequence .list items =>
    items.forM start
    setObject i (.list items)
  | .sequence _ items => setObject i (.pairs (← items.mapM startPair))
  | .mapping t _ =>
    merge [] (← get).bound i
    let built ← (← entries i).mapM startEntry
    let distinct := built.foldl (fun m e => Value.putEntry e.1 e.2 m) []
    setObject i (if t = .set then .set (distinct.map (·.1)) else .map distinct)

/-- Fills what has been started, in the order of the starts, until nothing is left. -/
def fillAll : Nat → Maker Unit
  | 0 => failure
  | rounds + 1 => do
    let waiting := (← get).waiting.reverse
    if waiting.isEmpty then return ()
    modify fun m => { m with waiting := [] }
    waiting.forM fill
    fillAll rounds

/-- The objects of a document by the numbers of their nodes. -/
def ofDocument? (d : Document) : Option (Array (Option Object)) := do
  let entryCount := d.nodes.foldl (fun n x => match x with
    | .mapping _ es => n + es.length
    | _ => n) 0
  let work : Maker Unit := do
    start d.root
    fillAll (d.nodes.size + 1)
  let (_, m) ← work.run ⟨d.nodes, .replicate d.nodes.size none, [], entryCount + 1⟩
  return m.objects

/-! ### From objects to values -/

/-- How deep clients are read: the file, its clients, an entry, and the scope or the information in
it. -/
def readDepth : Nat := 4

/-- The tree of values that is seen from an object. An object with itself as a member has no finite
tree, so inside of the objects in `around` it is only marked. The collections that clients are read
from, the first `free` on the way, leave no trace there: what is inside of them is seen as it is
from itself, which is also the form in which it is quoted. -/
def tree (objects : Array (Option Object)) : Nat → Nat → List Nat → Nat → Value
  | 0, _, _, _ => .null
  | depth + 1, free, around, i =>
    let part := tree objects depth (free - 1) (if free = 0 then i :: around else around)
    let again := around.contains i
    match (objects[i]?).join with
    | some (.plain v) => v
    | some (.list items) => if again then .listAgain else .list (items.map part)
    | some (.pairs es) =>
      if again then .listAgain else .list (es.map fun (k, v) => .tuple [part k, part v])
    | some (.set vs) => .set vs
    | some (.map es) => if again then .mapAgain else .map (es.map fun (k, v) => (k, part v))
    | none => .null

end Object

/-- The value of a text; null when the text has no content. -/
def load? (cs : List Char) : Option Value := do
  let ts ← Token.ofText? cs
  match ← Node.ofTokens? ts with
  | none => return .null
  | some d =>
    let objects ← Object.ofDocument? d
    return Object.tree objects (objects.size + Object.readDepth + 1) Object.readDepth [] d.root

end DeviceGrant.Yaml
