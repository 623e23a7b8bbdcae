import TradeCharts.Numeric.Binary64
import TradeCharts.Text.Numeral
/-! Decimal numbers in scientific form: their grammar and the doubles nearest to them. -/
namespace TradeCharts

open Text

/-- A non-negative decimal number `coefficient * 10 ^ exponent`, written with `width` digits. -/
structure Decimal where
  coefficient : Nat
  exponent : Int
  width : Nat
  deriving DecidableEq, Repr

namespace Decimal

/-- The double nearest to a decimal number. The two guards only spare powers of ten whose outcome is
known: a coefficient is below `10 ^ width`, and doubles lie between `10 ^ (-400)` and `10 ^ 400`. -/
def toFloat (d : Decimal) : Float :=
  if d.coefficient = 0 || d.exponent + d.width < -400 then Binary64.nearest 0 1
  else if 400 < d.exponent then Binary64.nearest (tenTo 400) 1
  else Binary64.nearest (d.coefficient * tenTo d.exponent.toNat) (tenTo (-d.exponent).toNat)

def readExponent? : List Char → Option Int
  | [] => some 0
  | c :: rest =>
    let (negative, ds) := splitSign rest
    if (c = 'e' || c = 'E') && !ds.isEmpty && ds.all isAsciiDigit then
      some (signed negative (digitsValue ds))
    else none

/-- Reads a decimal number without a sign: digits with at most one point among them, before them or
after them, and an exponent if any. -/
def read? (cs : List Char) : Option Decimal :=
  let whole := cs.takeWhile isAsciiDigit
  let rest := cs.dropWhile isAsciiDigit
  let (fraction, rest) := match rest with
    | '.' :: r => (r.takeWhile isAsciiDigit, r.dropWhile isAsciiDigit)
    | _ => ([], rest)
  let digits := whole ++ fraction
  if digits.isEmpty then none
  else (readExponent? rest).map fun e => ⟨digitsValue digits, e - fraction.length, digits.length⟩

end Decimal

end TradeCharts
