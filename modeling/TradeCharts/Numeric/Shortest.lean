import TradeCharts.Numeric.Binary64
/-! The shortest decimal digits of a double: of all digit strings that read back as the double,
those with the fewest digits, and of these the nearest to it. -/
namespace TradeCharts.Shortest

/-- The decimal number `0.d₁d₂… * 10 ^ point`, with no zero at the end of its digits. -/
structure Digits where
  digits : List Char
  point : Int
  deriving DecidableEq, Repr

/-- A positive number and the bounds of the interval that rounds to it, over one denominator. The
bounds themselves belong to the interval when `closed` holds. -/
structure Interval where
  low : Nat
  value : Nat
  high : Nat
  den : Nat
  closed : Bool
  deriving DecidableEq, Repr

/-- The rounding interval of a positive finite magnitude. Below a power of two the neighbours lie
half as far apart as above it, except at the bottom of the range. Ties go to even significands, so
the interval of an even one holds its bounds. -/
def Interval.ofDyadic (d : Binary64.Dyadic) : Interval :=
  let scale := twoTo (d.exponent - 2).toNat
  let m := 4 * d.significand
  let gap := if d.significand = Binary64.impliedBit && d.exponent ≠ -1074 then 1 else 2
  ⟨(m - gap) * scale, m * scale, (m + 2) * scale, twoTo (2 - d.exponent).toNat,
    d.significand % 2 == 0⟩

def Interval.holds (i : Interval) (num den : Nat) : Bool :=
  if i.closed then i.low * den ≤ num && num ≤ i.high * den
  else i.low * den < num && num < i.high * den

def digitCount (n : Nat) : Nat :=
  (Nat.toDigits 10 n).length

/-- The exponent `p` with `10 ^ (p - 1) ≤ value < 10 ^ p`. Every positive double is above
`10 ^ (-400)`. -/
def Interval.point (i : Interval) : Int :=
  (digitCount (i.value * tenTo 400 / i.den) : Int) - 400

/-- The multiple of `10 ^ (p - n)` next to the number that rounds to it: of two neighbours the
nearer, of two equally near the even one. -/
def Interval.onGrid? (i : Interval) (p : Int) (n : Nat) : Option Nat :=
  let up := tenTo (n - p).toNat
  let unit := i.den * tenTo (p - n).toNat
  let below := i.value * up / unit
  let above := below + 1
  match i.holds (below * unit) up, i.holds (above * unit) up with
  | true, true => some (Binary64.roundHalfEven (i.value * up) unit)
  | true, false => some below
  | false, true => some above
  | false, false => none

def Interval.search (i : Interval) (p : Int) : Nat → Nat → Nat × Nat
  | 0, n =>
    (Binary64.roundHalfEven (i.value * tenTo (n - p).toNat) (i.den * tenTo (p - n).toNat), n)
  | fuel + 1, n =>
    match i.onGrid? p n with
    | some k => (k, n)
    | none => i.search p fuel (n + 1)

/-- The shortest digits of a positive finite magnitude; seventeen digits always suffice. A hit that
rounds up to a power of ten has one digit more than its grid. -/
def ofDyadic (d : Binary64.Dyadic) : Digits :=
  let i := Interval.ofDyadic d
  let p := i.point
  let (k, n) := i.search p 16 1
  let ds := Nat.toDigits 10 k
  ⟨(ds.reverse.dropWhile (· == '0')).reverse, p + ds.length - n⟩

end TradeCharts.Shortest
