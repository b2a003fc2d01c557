import DeviceGrant.Yaml.Token
import DeviceGrant.Yaml.Tag
set_option autoImplicit false

/-! # YAML nodes

The tokens of a text make up one document of nodes: scalars, sequences and mappings, each with its
tag. The nodes have numbers, and the parts of a node are given by their numbers: an alias is the
node of its anchor once more, and inside of that node it makes the node a part of itself. An anchor
names one node only. A text without content has no node; a text with more than one document is an
error.

The functions below take the tokens that are left and give back the rest. The bound on the
recursion is the number of tokens. -/

namespace DeviceGrant.Yaml

/-- A node with its tag and the numbers of its parts. -/
inductive Node
  | scalar (tag : Tag) (text : List Char)
  | sequence (tag : Tag) (items : List Nat)
  | mapping (tag : Tag) (entries : List (Nat × Nat))

/-- Nodes, the one with the number `0` first, and the number of the node that holds the others. -/
structure Document where
  nodes : Array Node
  root : Nat

namespace Node

/-- The tag of a node. -/
def tag : Node → Tag
  | scalar t _ => t
  | sequence t _ => t
  | mapping t _ => t

/-- What the reading of a document goes through: the tokens that are left, what tag handles stand
for, the numbers of the nodes that have anchors, and the nodes so far. A collection is among the
nodes from its start on, without parts until its end. -/
structure Reading where
  tokens : List Token
  handles : List (List Char × List Char)
  anchors : List (List Char × Nat)
  nodes : Array Node

/-- A reader of a part of a document. -/
abbrev Reader (α : Type) := StateT Reading Option α

/-- The next token. -/
def next : Reader (Option Token) := do return (← get).tokens.head?

/-- Passes over the next token. -/
def skip : Reader Unit := modify fun r => { r with tokens := r.tokens.drop 1 }

/-- Passes over the next token if it is the given one, and says whether it was. -/
def skipIf (t : Token) : Reader Bool := do
  if (← next) = some t then
    skip
    return true
  else return false

/-- Passes over a token that must be there. -/
def expect (t : Token) : Reader Unit := do
  if ← skipIf t then return () else failure

/-- The tag of a handle and a suffix. -/
def resolveTag (handle : Option (List Char)) (suffix : List Char) : Reader Tag := do
  match handle with
  | none => return .ofChars suffix
  | some h =>
    match (← get).handles.find? fun e => e.1 = h with
    | some (_, lead) => return .ofChars (lead ++ suffix)
    | none => failure

/-- An anchor and a tag in front of a node, in either order. -/
def properties : Reader (Option (List Char) × Option Tag) := do
  match ← next with
  | some (.anchor a) =>
    skip
    match ← next with
    | some (.tag h s) =>
      skip
      return (some a, some (← resolveTag h s))
    | _ => return (some a, none)
  | some (.tag h s) =>
    skip
    match ← next with
    | some (.anchor a) =>
      skip
      return (some a, some (← resolveTag h s))
    | _ => return (none, some (← resolveTag h s))
  | _ => return (none, none)

/-- Puts a node behind the others, and gives its number. -/
def add (n : Node) : Reader Nat :=
  modifyGet fun r => (r.nodes.size, { r with nodes := r.nodes.push n })

/-- Puts a node behind the others and gives it its anchor. -/
def addAt (anchor : Option (List Char)) (n : Node) : Reader Nat := do
  let i ← add n
  match anchor with
  | none => return i
  | some a =>
    modify fun r => { r with anchors := (a, i) :: r.anchors }
    return i

/-- Gives a collection its parts. -/
def fill (i : Nat) (n : Node) : Reader Unit :=
  modify fun r => { r with nodes := r.nodes.setIfInBounds i n }

/-- The node that stands where nothing is written. -/
def empty : Reader Nat := add (scalar .null [])

/-- A scalar with the tag that it is given, or that its text has when it is plain. -/
def ofScalar (tag : Option Tag) (plain : Bool) (text : List Char) : Node :=
  match tag with
  | none => scalar (if plain then .ofPlain text else .text) text
  | some t => scalar (if t = .unspecific then .ofPlain text else t) text

/-- The tag of a collection. -/
def collectionTag (tag : Option Tag) (default : Tag) : Tag :=
  match tag with
  | none => default
  | some t => if t = .unspecific then default else t

/-- Whether a key, a value or the end of a block mapping comes next. -/
def endsBlockPart (t : Option Token) : Bool :=
  t = some .key || t = some .value || t = some .blockEnd

/-- Whether an entry of a flow mapping ends here. -/
def endsFlowPart (t : Option Token) : Bool := t = some .flowEntry || t = some .flowMappingEnd

/-- Whether an entry of a flow sequence ends here. -/
def endsFlowItem (t : Option Token) : Bool := t = some .flowEntry || t = some .flowSequenceEnd

mutual
/-- A node. `block` says whether block collections may start here, and `unindented` whether the
entries of a sequence may follow without indentation. -/
def read (block unindented : Bool) : Nat → Reader Nat
  | 0 => failure
  | fuel + 1 => do
    match ← next with
    | some (.alias a) =>
      skip
      match (← get).anchors.find? fun e => e.1 = a with
      | some (_, i) => return i
      | none => failure
    | _ =>
      let (anchor, tag) ← properties
      if (← get).anchors.any fun e => some e.1 = anchor then failure
      let t ← next
      match t with
      | some (.scalar text plain) =>
        skip
        addAt anchor (ofScalar tag plain text)
      | _ =>
        let isSequence := (unindented && t = some .blockEntry) || t = some .flowSequenceStart ||
          (block && t = some .blockSequenceStart)
        let isMapping := t = some .flowMappingStart || (block && t = some .blockMappingStart)
        if isSequence then
          let tag := collectionTag tag .list
          let i ← addAt anchor (sequence tag [])
          if t ≠ some .blockEntry then skip
          let items ←
            if t = some .blockEntry then readUnindentedItems fuel
            else if t = some .flowSequenceStart then readFlowItems true fuel
            else readBlockItems fuel
          fill i (sequence tag items)
          return i
        else if isMapping then
          let tag := collectionTag tag .map
          let i ← addAt anchor (mapping tag [])
          skip
          let entries ←
            if t = some .flowMappingStart then readFlowEntries true fuel
            else readBlockEntries fuel
          fill i (mapping tag entries)
          return i
        else if anchor.isSome || tag.isSome then addAt anchor (ofScalar tag true [])
        else failure

/-- The entries of a block sequence and its end. -/
def readBlockItems : Nat → Reader (List Nat)
  | 0 => failure
  | fuel + 1 => do
    if ← skipIf .blockEntry then
      let t ← next
      let n ← if t = some .blockEntry || t = some .blockEnd then empty
        else read true false fuel
      return n :: (← readBlockItems fuel)
    else
      expect .blockEnd
      return []

/-- The entries of a sequence that is not indented beyond the key it belongs to. -/
def readUnindentedItems : Nat → Reader (List Nat)
  | 0 => failure
  | fuel + 1 => do
    if ← skipIf .blockEntry then
      let t ← next
      let n ← if t = some .blockEntry || endsBlockPart t then empty else read true false fuel
      return n :: (← readUnindentedItems fuel)
    else return []

/-- The entries of a block mapping and its end. A missing key or value is empty. -/
def readBlockEntries : Nat → Reader (List (Nat × Nat))
  | 0 => failure
  | fuel + 1 => do
    if ← skipIf .key then
      let k ← if endsBlockPart (← next) then empty else read true true fuel
      let v ← if ← skipIf .value then
          (if endsBlockPart (← next) then empty else read true true fuel)
        else empty
      return (k, v) :: (← readBlockEntries fuel)
    else
      expect .blockEnd
      return []

/-- The items of a flow sequence and its end. An item with a key mark is a mapping of one entry. -/
def readFlowItems (first : Bool) : Nat → Reader (List Nat)
  | 0 => failure
  | fuel + 1 => do
    if ← skipIf .flowSequenceEnd then return []
    else
      if !first then expect .flowEntry
      if ← skipIf .key then
        let t ← next
        let k ← if t = some .value || endsFlowItem t then empty else read false false fuel
        let v ← if ← skipIf .value then
            (if endsFlowItem (← next) then empty else read false false fuel)
          else empty
        let i ← add (mapping .map [(k, v)])
        return i :: (← readFlowItems false fuel)
      else if ← skipIf .flowSequenceEnd then return []
      else
        let n ← read false false fuel
        return n :: (← readFlowItems false fuel)

/-- The entries of a flow mapping and its end. A node without a key mark is a key without value. -/
def readFlowEntries (first : Bool) : Nat → Reader (List (Nat × Nat))
  | 0 => failure
  | fuel + 1 => do
    if ← skipIf .flowMappingEnd then return []
    else
      if !first then expect .flowEntry
      if ← skipIf .key then
        let t ← next
        let k ← if t = some .value || endsFlowPart t then empty else read false false fuel
        let v ← if ← skipIf .value then
            (if endsFlowPart (← next) then empty else read false false fuel)
          else empty
        return (k, v) :: (← readFlowEntries false fuel)
      else if ← skipIf .flowMappingEnd then return []
      else
        let k ← read false false fuel
        let v ← empty
        return (k, v) :: (← readFlowEntries false fuel)
end

/-! ## Documents -/

/-- The handles that need no directive. -/
def defaultHandles : List (List Char × List Char) :=
  [(['!'], ['!']), (['!', '!'], "tag:yaml.org,2002:".toList)]

/-- The directives in front of a document; `versioned` says whether a version was given. -/
def directives? (versioned : Bool) (handles : List (List Char × List Char)) :
    List Token → Option (List (List Char × List Char) × List Token)
  | .versionDirective major :: ts =>
    if versioned || major ≠ 1 then none else directives? true handles ts
  | .tagDirective h lead :: ts =>
    if handles.any fun e => e.1 = h then none
    else directives? versioned ((h, lead) :: handles) ts
  | .otherDirective :: ts => directives? versioned handles ts
  | ts => some (handles ++ defaultHandles, ts)

/-- The document that the tokens make up; `some none` when there is none. -/
def ofTokens? (ts : List Token) : Option (Option Document) :=
  let fuel := 2 * ts.length + 2
  let content (handles : List (List Char × List Char)) (ts : List Token) :
      Option (Option Document) := do
    let (root, r) ← (read true false fuel).run ⟨ts, handles, [], #[]⟩
    if r.tokens.all (· = .documentEnd) then return some ⟨r.nodes, root⟩ else none
  match ts with
  | [] => some none
  | .documentStart :: _ => explicit content ts
  | .versionDirective _ :: _ => explicit content ts
  | .tagDirective .. :: _ => explicit content ts
  | .otherDirective :: _ => explicit content ts
  | ts => content defaultHandles ts
where
  /-- A document behind its directives and its start mark. -/
  explicit (content : List (List Char × List Char) → List Token → Option (Option Document))
      (ts : List Token) : Option (Option Document) := do
    let (handles, ts) ← directives? false [] ts
    match ts with
    | .documentStart :: ts =>
      match ts with
      | [] => some (some nothing)
      | .documentEnd :: rest =>
        if rest.all (· = .documentEnd) then some (some nothing) else none
      | ts => content handles ts
    | _ => none
  /-- The document in which nothing is written. -/
  nothing : Document := ⟨#[scalar .null []], 0⟩

end Node

end DeviceGrant.Yaml
