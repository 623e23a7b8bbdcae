import TradeCharts.Numeric.Shortest
/-! Doubles as texts. The digits are the shortest ones that read back; where the point stands and
how an exponent and the special values look is a style of the format. -/
namespace TradeCharts

structure FloatStyle where
  /-- Write a point and a zero into a lone digit before an exponent. -/
  pointBeforeExponent : Bool
  infinity : String
  nan : String
  deriving DecidableEq, Repr

namespace FloatStyle

/-- Numbers from `10 ^ (-4)` on and below `10 ^ 16` are written without an exponent. -/
def isPositional (point : Int) : Bool :=
  -4 < point && point ≤ 16

def positional (d : Shortest.Digits) : List Char :=
  if d.point ≤ 0 then '0' :: '.' :: List.replicate (-d.point).toNat '0' ++ d.digits
  else
    let p := d.point.toNat
    let whole := d.digits.take p ++ List.replicate (p - d.digits.length) '0'
    let fraction := d.digits.drop p
    whole ++ '.' :: (if fraction.isEmpty then ['0'] else fraction)

/-- An exponent with its sign and at least two digits. -/
def exponentChars (e : Int) : List Char :=
  let ds := Nat.toDigits 10 e.natAbs
  'e' :: (if e < 0 then '-' else '+') :: (List.replicate (2 - ds.length) '0' ++ ds)

def scientific (style : FloatStyle) (d : Shortest.Digits) : List Char :=
  let mantissa := match d.digits with
    | [c] => if style.pointBeforeExponent then [c, '.', '0'] else [c]
    | c :: rest => c :: '.' :: rest
    | [] => []
  mantissa ++ exponentChars (d.point - 1)

def render (style : FloatStyle) (x : Float) : String :=
  if x.isNaN then style.nan
  else
    let sign := if Binary64.isNegative x then "-" else ""
    if !x.isFinite then sign ++ style.infinity
    else if x == 0.0 then sign ++ "0.0"
    else
      let d := Shortest.ofDyadic (Binary64.dyadic x)
      sign ++ String.ofList (if isPositional d.point then positional d else style.scientific d)

end FloatStyle

end TradeCharts
