import TradeCharts.Numeric.Power
/-! Double-precision numbers as exact ratios: the double nearest to a ratio, and the significand and
exponent of a double. All arithmetic is on naturals, so both directions are exact. -/
namespace TradeCharts.Binary64

def infinityBits : Nat := 0x7FF0000000000000

/-- The number of significands of one exponent: the bit that a normal magnitude implies. -/
def impliedBit : Nat := 0x10000000000000

def signBit : Nat := 0x8000000000000000

/-- The quotient rounded to the nearest natural, a half to the even neighbour. -/
def roundHalfEven (num den : Nat) : Nat :=
  let q := num / den
  let r := num % den
  if 2 * r < den then q else if den < 2 * r then q + 1 else q + q % 2

/-- The exponent `k` with `2 ^ k ≤ num / den < 2 ^ (k + 1)`, for positive arguments. -/
def floorLog2 (num den : Nat) : Int :=
  let k := (num.log2 : Int) - den.log2
  if den * twoTo k.toNat ≤ num * twoTo (-k).toNat then k else k - 1

/-- The bits of the double nearest to `num / den`, a tie going to the even significand and a ratio
beyond the range to infinity. The significand is added to the exponent field, so that its leading
bit and a carry out of the rounding both land in the exponent. -/
def nearestBits (num den : Nat) : Nat :=
  if num = 0 then 0
  else
    let e := max (floorLog2 num den - 52) (-1074)
    let s := roundHalfEven (num * twoTo (-e).toNat) (den * twoTo e.toNat)
    min ((e + 1074).toNat * impliedBit + s) infinityBits

def nearest (num den : Nat) : Float :=
  Float.ofBits (nearestBits num den).toUInt64

def withSign (negative : Bool) (x : Float) : Float :=
  if negative then -x else x

/-- The double nearest to a whole number, `none` beyond the range of the finite doubles. -/
def ofInt? (n : Int) : Option Float :=
  if nearestBits n.natAbs 1 < infinityBits then some (withSign (n < 0) (nearest n.natAbs 1))
  else none

/-- A finite magnitude `significand * 2 ^ exponent`. -/
structure Dyadic where
  significand : Nat
  exponent : Int
  deriving DecidableEq, Repr

def magnitudeBits (x : Float) : Nat :=
  x.toBits.toNat % signBit

def isNegative (x : Float) : Bool :=
  signBit ≤ x.toBits.toNat

def dyadic (x : Float) : Dyadic :=
  let b := magnitudeBits x
  if b < impliedBit then ⟨b, -1074⟩
  else ⟨impliedBit + b % impliedBit, (b / impliedBit : Nat) - 1075⟩

namespace Dyadic

def num (d : Dyadic) : Nat :=
  d.significand * twoTo d.exponent.toNat

def den (d : Dyadic) : Nat :=
  twoTo (-d.exponent).toNat

def toNat? (d : Dyadic) : Option Nat :=
  if d.num % d.den = 0 then some (d.num / d.den) else none

end Dyadic

end TradeCharts.Binary64
