set_option autoImplicit false

/-! # Key patterns

A pattern selects keys: `*` stands for any characters, `?` for any one, and brackets for one out
of a class, or with `!` behind the opening bracket for one outside of it. A class lists characters
and ranges; a closing bracket that stands first is a member, and a bracket that is never closed
stands for itself. A range whose ends are the wrong way round has no members and is dropped, and
where a `!` comes to stand first that way it negates the class as well: `[b-a!x]` stands for
anything but `x`. Every other character stands for itself. -/

namespace DeviceGrant.Text

/-- One part of a pattern. -/
inductive GlobPart
  | anything
  | anyOne
  | literal (c : Char)
  | oneOf (negated : Bool) (ranges : List (Char × Char))
deriving DecidableEq, Repr

namespace Glob

/-- The members of a class: ranges, and single characters as ranges of one. -/
def classRanges : List Char → List (Char × Char)
  | a :: '-' :: b :: rest => (a, b) :: classRanges rest
  | a :: rest => (a, a) :: classRanges rest
  | [] => []

/-- The characters of a class without the ranges at its front that have no members. -/
def dropEmptyRanges : List Char → List Char
  | a :: '-' :: b :: rest => if b < a then dropEmptyRanges rest else a :: '-' :: b :: rest
  | cs => cs

/-- The class of members that do not start with `!`. A `!` that stands first once empty ranges are
dropped negates the class, and is no longer the lower end of a range. -/
def classOf (members : List Char) : GlobPart :=
  match dropEmptyRanges members with
  | '!' :: '-' :: b :: rest => .oneOf true (('-', '-') :: (b, b) :: classRanges rest)
  | '!' :: rest => .oneOf true (classRanges rest)
  | cs => .oneOf false (classRanges cs)

/-- The members of a class up to its closing bracket, and the rest of the pattern. The first
character belongs to the class even when it is a closing bracket. -/
def splitClass? : List Char → Option (List Char × List Char)
  | [] => none
  | c :: cs =>
    match cs.span (· ≠ ']') with
    | (members, _ :: rest) => some (c :: members, rest)
    | (_, []) => none

/-- The class behind an opening bracket and the rest of the pattern; none when the bracket is
never closed. -/
def readClass? : List Char → Option (GlobPart × List Char)
  | '!' :: cs => (splitClass? cs).map fun (ms, rest) => (.oneOf true (classRanges ms), rest)
  | cs => (splitClass? cs).map fun (ms, rest) => (classOf ms, rest)

/-- The parts of a pattern of at most `fuel` characters. -/
def partsUpTo : Nat → List Char → List GlobPart
  | 0, _ => []
  | _, [] => []
  | fuel + 1, c :: cs =>
    if c = '*' then .anything :: partsUpTo fuel cs
    else if c = '?' then .anyOne :: partsUpTo fuel cs
    else if c = '[' then
      match readClass? cs with
      | some (part, rest) => part :: partsUpTo fuel rest
      | none => .literal c :: partsUpTo fuel cs
    else .literal c :: partsUpTo fuel cs

/-- The parts of a pattern. -/
def parts (pattern : List Char) : List GlobPart := partsUpTo pattern.length pattern

/-- Whether a part other than `anything` stands for a character. -/
def GlobPart.accepts (c : Char) : GlobPart → Bool
  | .anything => true
  | .anyOne => true
  | .literal d => c = d
  | .oneOf negated ranges => (ranges.any fun r => r.1 ≤ c && c ≤ r.2) != negated

/-- Whether any end of a text, from the whole to the empty one, satisfies a test. -/
def anySuffix (test : List Char → Bool) : List Char → Bool
  | [] => test []
  | c :: cs => test (c :: cs) || anySuffix test cs

/-- Whether parts stand for a whole text. -/
def matchParts : List GlobPart → List Char → Bool
  | [], cs => cs.isEmpty
  | .anything :: ps, cs => anySuffix (matchParts ps) cs
  | _ :: _, [] => false
  | p :: ps, c :: cs => GlobPart.accepts c p && matchParts ps cs

end Glob

/-- Whether a key fits a pattern. -/
def globMatches (pattern key : String) : Bool :=
  Glob.matchParts (Glob.parts pattern.toList) key.toList

end DeviceGrant.Text
