import TradeCharts.Numeric.Decimal
import TradeCharts.Trade
/-! Magnitudes of formatted amounts. A sign never tells the direction of a trade, so it is dropped;
what is no finite number has no magnitude. -/
namespace TradeCharts

open Text

def finiteMagnitude? (x : Float) : Option Float :=
  if x.isFinite then some x.abs else none

/-- The number that a text writes after its sign. The names of infinities and of NaN are no decimal
numbers, so they have none. -/
def unsignedAmount? (cs : List Char) : Option Float :=
  ((joinDigitGroups cs).bind Decimal.read?).map Decimal.toFloat

/-- The magnitude that a text writes: white space around it, one sign, digits of any script in
groups joined by single underscores, a point and an exponent are allowed. -/
def amountOfText? (s : String) : Option Float :=
  let cs := (trimBoth isWhiteSpace s.toList).map toAsciiDigit
  (unsignedAmount? (splitSign cs).2).bind finiteMagnitude?

def FormattedAmount.magnitude? : FormattedAmount → Option Float
  | .text s => amountOfText? s
  | .number x => finiteMagnitude? x

namespace Trade

def inputAmount? (t : Trade) : Option Float :=
  t.input.formattedAmount.magnitude?

def outputAmount? (t : Trade) : Option Float :=
  t.output.formattedAmount.magnitude?

end Trade

end TradeCharts
