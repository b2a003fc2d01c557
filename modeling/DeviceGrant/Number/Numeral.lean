import DeviceGrant.Number.Binary64
import DeviceGrant.Text.Digit
set_option autoImplicit false

/-! # Reading numerals

A whole number may have blanks around it, a sign, a mark of its base after `0`, and single
underscores between its digits; its digits may come from any script. Numerals to base ten are
limited to `maxDigits` digits. A fraction is read in the same way without underscores, and may also be an
infinity or not a number. -/

namespace DeviceGrant.Number.Numeral

/-- The value of a digit in a base of at most sixteen. -/
def digitIn? (base : Nat) (c : Char) : Option Nat :=
  let v : Nat :=
    if c.isDigit then c.toNat - 48
    else if c.isLower then c.toNat - 87
    else if c.isUpper then c.toNat - 55
    else 99
  if v < base then some v else none

/-- The value and the number of digits, single underscores between them passed over. `seen` says
whether the character before was a digit. -/
def readDigits? (base value count : Nat) (seen : Bool) : List Char → Option (Nat × Nat)
  | [] => if seen then some (value, count) else none
  | c :: cs =>
    if c = '_' then if seen then readDigits? base value count false cs else none
    else match digitIn? base c with
      | some d => readDigits? base (value * base + d) (count + 1) true cs
      | none => none

/-- The letter that marks a base behind a zero. -/
def marks (base : Nat) (c : Char) : Bool :=
  (base = 16 && (c = 'x' || c = 'X')) || (base = 8 && (c = 'o' || c = 'O')) ||
    (base = 2 && (c = 'b' || c = 'B'))

/-- The sign at the front of a numeral, and the rest. -/
def splitSign : List Char → Bool × List Char
  | '-' :: cs => (true, cs)
  | '+' :: cs => (false, cs)
  | cs => (false, cs)

/-- The whole number of a numeral. -/
def int? (base : Nat) (cs : List Char) : Option Int :=
  let (negative, cs) := splitSign ((Text.trimChars cs).map Text.asciiDigit)
  let cs := match cs with
    | '0' :: m :: rest =>
      if marks base m then (if rest.head? = some '_' then rest.drop 1 else rest) else cs
    | cs => cs
  match readDigits? base 0 0 false cs with
  | some (n, count) =>
    if base = 10 && maxDigits < count then none
    else some (if negative then -(n : Int) else n)
  | none => none

/-- The exponent behind a fraction's digits; zero where there is none. -/
def exponent? : List Char → Option Int
  | [] => some 0
  | c :: cs =>
    if c = 'e' || c = 'E' then
      let (negative, ds) := splitSign cs
      if ds.isEmpty || !ds.all Char.isDigit then none
      else
        let n : Int := Text.digitsValue ds
        some (if negative then -n else n)
    else none

/-- The double of a numeral with or without a point and an exponent. -/
def float? (cs : List Char) : Option Binary64 :=
  let (negative, cs) := splitSign ((Text.trimChars cs).map Text.asciiDigit)
  let word := String.ofList (cs.map Char.toLower)
  if word = "inf" || word = "infinity" then some (.infinite negative)
  else if word = "nan" then some .nan
  else
    let (whole, rest) := cs.span Char.isDigit
    let (places, rest) := match rest with
      | '.' :: rest => rest.span Char.isDigit
      | rest => ([], rest)
    if whole.isEmpty && places.isEmpty then none
    else (exponent? rest).map fun e =>
      let digits := Text.digitsValue (whole ++ places)
      .ofDecimal negative digits (e - places.length)

end DeviceGrant.Number.Numeral
