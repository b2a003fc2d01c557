set_option autoImplicit false

/-! # Floating-point numbers of 64 bits

A fractional number in a clock reading, a JSON text or a clients file is a double: a sign, a
whole mantissa and a power of two, or an infinity, or not a number. The type holds the exact
value, so that sums, comparisons with whole numbers and the printed form can be reasoned about in
whole-number arithmetic. `nearest` is the only place where a value is rounded, to the nearest double
and at a tie to the even mantissa. It gives a mantissa of 53 bits, of fewer bits only at the least
exponent, so that each finite double is written in one way. -/

namespace DeviceGrant.Number

/-- Powers of whole numbers are the built-in ones, also next to a library that has its own. -/
scoped instance (priority := 2000) builtinNatPow : Pow Nat Nat := instPowNat

@[inherit_doc builtinNatPow]
scoped instance (priority := 2000) builtinIntPow : Pow Int Nat := instPowNat

/-- A double. A finite one stands for `± mantissa · 2 ^ exponent`. -/
inductive Binary64
  | finite (negative : Bool) (mantissa : Nat) (exponent : Int)
  | infinite (negative : Bool)
  | nan
deriving DecidableEq, Repr

namespace Binary64

/-- The least exponent of a double. -/
def minExponent : Int := -1074

/-- The greatest exponent of a double. -/
def maxExponent : Int := 971

/-- Zero, with a sign. -/
def zero (negative : Bool) : Binary64 := finite negative 0 minExponent

/-- Numerator and denominator of `num / den` counted in units of `2 ^ e`. -/
def inUnits (num den : Nat) (e : Int) : Nat × Nat :=
  if 0 ≤ e then (num, den * 2 ^ e.toNat) else (num * 2 ^ (-e).toNat, den)

/-- The exponent at which `num / den` has a mantissa of 53 bits, or the least one. -/
def exponentFor (num den : Nat) : Int :=
  let e := (Nat.log2 num : Int) - Nat.log2 den - 52
  let (a, b) := inUnits num den e
  max minExponent (if a / b < 2 ^ (52 : Nat) then e - 1 else e)

/-- The whole number nearest to `a / b`, the even one of two. -/
def roundHalfEven (a b : Nat) : Nat :=
  let q := a / b
  let r := a % b
  if 2 * r < b then q else if 2 * r = b && q % 2 = 0 then q else q + 1

/-- The double nearest to `± num / den`, for `den` above zero. -/
def nearest (negative : Bool) (num den : Nat) : Binary64 :=
  if num = 0 then zero negative else
    let e := exponentFor num den
    let (a, b) := inUnits num den e
    let m := roundHalfEven a b
    let (m, e) := if m = 2 ^ (53 : Nat) then (2 ^ (52 : Nat), e + 1) else (m, e)
    if e ≤ maxExponent then finite negative m e else infinite negative

/-- The double nearest to a whole number. -/
def ofInt (n : Int) : Binary64 := nearest (n < 0) n.natAbs 1

/-- A finite value as `num / 2 ^ scale`. -/
def toDyadic? : Binary64 → Option (Int × Nat)
  | finite neg m e =>
    let v : Int := if neg then -(m : Int) else m
    some (if 0 ≤ e then (v * 2 ^ e.toNat, 0) else (v, (-e).toNat))
  | _ => none

/-- Whether the sign is negative. -/
def isNegative : Binary64 → Bool
  | finite neg _ _ => neg
  | infinite neg => neg
  | nan => false

def isZero : Binary64 → Bool
  | finite _ m _ => m = 0
  | _ => false

def isFinite : Binary64 → Bool
  | finite .. => true
  | _ => false

def neg : Binary64 → Binary64
  | finite s m e => finite (!s) m e
  | infinite s => infinite (!s)
  | nan => nan

/-- The double nearest to `num / 2 ^ scale`; a zero gets the given sign. -/
def ofDyadic (zeroNegative : Bool) (num : Int) (scale : Nat) : Binary64 :=
  if num = 0 then zero zeroNegative else nearest (num < 0) num.natAbs (2 ^ scale)

/-- The rounded sum. Zeros of opposite signs add up to the positive zero. -/
def add (x y : Binary64) : Binary64 :=
  match x.toDyadic?, y.toDyadic? with
  | some (a, s), some (b, t) =>
    ofDyadic (x.isNegative && y.isNegative) (a * 2 ^ t + b * 2 ^ s) (s + t)
  | _, _ =>
    match x, y with
    | nan, _ => nan
    | _, nan => nan
    | infinite s, infinite t => if s = t then infinite s else nan
    | infinite s, _ => infinite s
    | _, y => y

/-- The rounded difference. -/
def sub (x y : Binary64) : Binary64 := add x y.neg

/-- The rounded product. -/
def mul (x y : Binary64) : Binary64 :=
  let s := x.isNegative != y.isNegative
  match x.toDyadic?, y.toDyadic? with
  | some (a, i), some (b, j) => ofDyadic s (a * b) (i + j)
  | _, _ =>
    match x, y with
    | nan, _ => nan
    | _, nan => nan
    | x, y => if x.isZero || y.isZero then nan else infinite s

/-- The whole number that is left when the places after the point are cut off. -/
def truncate? (x : Binary64) : Option Int :=
  x.toDyadic?.map fun (n, s) => n.tdiv (2 ^ s)

/-- The value when it is a whole number. -/
def toInt? (x : Binary64) : Option Int :=
  match x.toDyadic? with
  | some (n, s) => if n.tmod (2 ^ s) = 0 then some (n.tdiv (2 ^ s)) else none
  | none => none

/-- Whether the value is above a whole number. No value that is not a number is. -/
def isAbove (x : Binary64) (n : Int) : Bool :=
  match x with
  | infinite s => !s
  | nan => false
  | finite .. =>
    match x.toDyadic? with
    | some (v, s) => n * 2 ^ s < v
    | none => false

/-- The double nearest to the decimal `± digits · 10 ^ exponent`. The bounds in front keep the
powers of ten small: beyond them the answer is an infinity or zero. -/
def ofDecimal (negative : Bool) (digits : Nat) (exponent : Int) : Binary64 :=
  if digits = 0 then zero negative
  else
    let size : Int := (Nat.toDigits 10 digits).length + exponent
    if size > 400 then infinite negative
    else if size < -400 then zero negative
    else if 0 ≤ exponent then nearest negative (digits * 10 ^ exponent.toNat) 1
    else nearest negative digits (10 ^ (-exponent).toNat)

end Binary64

end DeviceGrant.Number
