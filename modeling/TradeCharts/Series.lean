import TradeCharts.Timeline
/-! Points of a series, and the running sums that they are read from. Doubles are added one by one
in the order of the trades, starting from zero. -/
namespace TradeCharts

structure PricePoint where
  time : Int
  value : Float
  deriving DecidableEq, Repr

structure ColoredPoint where
  time : Int
  value : Float
  color : Option String
  deriving DecidableEq, Repr

structure PriceTotals where
  base : Float
  quote : Float
  trades : Nat
  deriving DecidableEq, Repr

namespace PriceTotals

def zero : PriceTotals :=
  ⟨0.0, 0.0, 0⟩

def add (s : PriceTotals) (base quote : Float) : PriceTotals :=
  ⟨s.base + base, s.quote + quote, s.trades + 1⟩

/-- The price, quote per base, weighted by the base amounts; none without a base amount and none
when the quotient is not finite. -/
def price? (s : PriceTotals) : Option Float :=
  if s.base ≤ 0.0 then none
  else
    let price := s.quote / s.base
    if price.isFinite then some price else none

def point? (s : PriceTotals) (time : Int) : Option PricePoint :=
  s.price?.map (⟨time, ·⟩)

end PriceTotals

/-- Base volumes of one direction, summed by bucket. -/
abbrev VolumeBuckets := Timeline Float

namespace VolumeBuckets

def add (v : VolumeBuckets) (start : Int) (amount : Float) : VolumeBuckets :=
  v.update start fun total? => total?.getD 0.0 + amount

/-- One point for each bucket in use, ascending; negated volumes hang below the axis. -/
def points (v : VolumeBuckets) (color : Option String) (negate : Bool) : List ColoredPoint :=
  v.entries.map fun (start, total) => ⟨start, if negate then -total else total, color⟩

end VolumeBuckets

end TradeCharts
