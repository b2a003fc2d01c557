import DeviceGrant.Number.Binary64
set_option autoImplicit false

/-! # The shortest decimal form of a double

A double is written with the fewest digits that read back as the same double, and of the decimals
of that length with the one nearest to the value. The search tries one digit, two digits and so on;
on each decimal grid only the two neighbours of the value have to be looked at.

The layout is the one of log lines and answers: positional from `0.0001` up to below `1e+16`
with at least one digit after the point, and otherwise one digit before the point and an exponent
of at least two digits. -/

namespace DeviceGrant.Number

/-- A decimal `digits · 10 ^ exponent`. -/
structure Decimal where
  digits : Nat
  exponent : Int
deriving DecidableEq, Repr

namespace Binary64

/-- The number of decimal digits of a whole number. -/
def decimalLength (n : Nat) : Nat := (Nat.toDigits 10 n).length

/-- The least `k` with `num / den < 10 ^ k`, for a value above zero. -/
def decimalSize (num den : Nat) : Int :=
  let k : Int := (decimalLength num : Int) - decimalLength den
  let below (k : Int) : Bool :=
    if 0 ≤ k then num < den * 10 ^ k.toNat else num * 10 ^ (-k).toNat < den
  if below k then k else k + 1

/-- The neighbours of `num / den` on the grid of multiples of `10 ^ e`, nearest first. -/
def gridNeighbours (num den : Nat) (e : Int) : List Nat :=
  let (a, b) := if 0 ≤ e then (num, den * 10 ^ e.toNat) else (num * 10 ^ (-e).toNat, den)
  let q := a / b
  let r := a % b
  if 2 * r < b || (2 * r = b && q % 2 = 0) then [q, q + 1] else [q + 1, q]

/-- The first decimal of at most `fuel` further digit counts, starting from `count` digits, that
reads back as `x`. -/
def searchShortest (x : Binary64) (num den : Nat) (size : Int) : Nat → Nat → Option Decimal
  | 0, _ => none
  | fuel + 1, count =>
    let e := size - count
    match (gridNeighbours num den e).find? fun d => ofDecimal false d e = x with
    | some d => some ⟨d, e⟩
    | none => searchShortest x num den size fuel (count + 1)

/-- The shortest decimal of the value without its sign; none for zero and what is not finite. -/
def shortest? : Binary64 → Option Decimal
  | finite _ m e =>
    if m = 0 then none else
      let (num, den) := if 0 ≤ e then (m * 2 ^ e.toNat, 1) else (m, 2 ^ (-e).toNat)
      searchShortest (finite false m e) num den (decimalSize num den) 17 1
  | _ => none

/-- Digits without the zeros at their end. -/
def significantDigits (n : Nat) : List Char :=
  ((Nat.toDigits 10 n).reverse.dropWhile (· = '0')).reverse

/-- The digits of a decimal with the point after the first `point` of them. -/
def positional (ds : List Char) (point : Int) : List Char :=
  if point ≤ 0 then
    '0' :: '.' :: List.replicate (-point).toNat '0' ++ ds
  else if ds.length ≤ point.toNat then
    ds ++ List.replicate (point.toNat - ds.length) '0' ++ ['.', '0']
  else ds.take point.toNat ++ '.' :: ds.drop point.toNat

/-- The digits of a decimal with an exponent. -/
def scientific (ds : List Char) (exponent : Int) : List Char :=
  let body := match ds with
    | [] => []
    | [d] => [d]
    | d :: rest => d :: '.' :: rest
  let size := Nat.toDigits 10 exponent.natAbs
  body ++ 'e' :: (if exponent < 0 then '-' else '+') ::
    List.replicate (2 - size.length) '0' ++ size

/-- The written form of a double. -/
def toText (x : Binary64) : String :=
  match x with
  | nan => "nan"
  | infinite s => if s then "-inf" else "inf"
  | finite s _ _ =>
    let body := match x.shortest? with
      | none => ['0', '.', '0']
      | some d =>
        let ds := significantDigits d.digits
        let point : Int := decimalLength d.digits + d.exponent
        if -4 < point && point ≤ 16 then positional ds point else scientific ds (point - 1)
    String.ofList (if s then '-' :: body else body)

end Binary64

end DeviceGrant.Number
