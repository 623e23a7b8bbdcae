import Mathlib.Data.List.ReduceOption
import TradeCharts.Chart
import TradeCharts.Proofs.Numeric.Sign
import TradeCharts.Proofs.Window

/-!
A chart is drawn without dividing by zero. The checked functions below do the work of the chart but
stop at a division whose divisor is zero; there are two kinds of division, of times by the bucket
width and of quote totals by base totals. The checked chart never stops (`checkedChart_eq`).
-/
namespace TradeCharts

/-- The quotient of two doubles, none when the divisor is a zero of either sign. -/
def quotient? (x y : Float) : Option Float :=
  if y == 0.0 then none else some (x / y)

namespace PriceTotals

/-- The price as it is worked out, none when that divides by zero. -/
def checkedPrice? (s : PriceTotals) : Option (Option Float) :=
  if s.base ≤ 0.0 then some none
  else (quotient? s.quote s.base).map fun price => if price.isFinite then some price else none

def checkedPoint? (s : PriceTotals) (time : Int) : Option (Option PricePoint) :=
  s.checkedPrice?.map fun price? => price?.map (⟨time, ·⟩)

/-- The guard on the base total keeps every zero from the division, also a negative one. -/
lemma checkedPrice?_eq (s : PriceTotals) : s.checkedPrice? = some s.price? := by
  unfold checkedPrice? price?
  split_ifs with h
  · rfl
  · have hz := Binary64.beq_zero_eq_false h
    rw [quotient?, hz]
    rfl

lemma checkedPoint?_eq (s : PriceTotals) (time : Int) :
    s.checkedPoint? time = some (s.point? time) := by
  rw [checkedPoint?, checkedPrice?_eq]
  rfl

end PriceTotals

namespace ChartSums

def checkedRead (base : String) (width : Int) (s : ChartSums) (t : Trade) : Option ChartSums :=
  match t.execution? base with
  | none => some (s.skip t .nonNumericAmount)
  | some e =>
    if e.baseAmount == 0.0 then some (s.skip t .zeroBaseAmount)
    else (Window.bucketStart? e.timestamp width).map fun _ => s.add width e

def checkedPricePoints (s : ChartSums) : Option (List PricePoint) :=
  (s.prices.entries.mapM fun entry : Int × PriceTotals =>
    entry.2.checkedPoint? entry.1).map List.reduceOption

lemma checkedRead_eq {base : String} {width : Int} (hw : 0 < width) (s : ChartSums) (t : Trade) :
    s.checkedRead base width t = some (s.read base width t) := by
  unfold checkedRead read
  cases t.execution? base with
  | none => rfl
  | some e =>
    have hstart : Window.bucketStart? e.timestamp width =
        some (Window.bucketStart e.timestamp width) := if_neg hw.ne'
    dsimp only
    rw [hstart]
    split_ifs <;> rfl

lemma checkedPricePoints_eq (s : ChartSums) : s.checkedPricePoints = some s.pricePoints := by
  have hpoints : s.prices.entries.mapM (fun entry : Int × PriceTotals =>
      entry.2.checkedPoint? entry.1) = some (s.prices.entries.map fun entry =>
        entry.2.point? entry.1) := by
    simp only [PriceTotals.checkedPoint?_eq]
    exact List.mapM_pure
  rw [checkedPricePoints, hpoints, Option.map_some, List.reduceOption, List.filterMap_map]
  rfl

end ChartSums

namespace View

def checkedSums (v : View) (trades : List Trade) : Option ChartSums :=
  (v.trades trades).foldlM (ChartSums.checkedRead v.base v.bucketWidth) .empty

/-- The chart of the trades, none when drawing it divides by zero. -/
def checkedChart (v : View) (palette : Palette) (trades : List Trade) : Option PairChart := do
  let s ← v.checkedSums trades
  let prices ← s.checkedPricePoints
  some { prices
         buyVolumes := s.buys.points (some palette.buyVolume) false
         sellVolumes := s.sells.points (some palette.sellVolume) true }

lemma checkedSums_eq (v : View) (trades : List Trade) :
    v.checkedSums trades = some (v.sums trades) := by
  have hw := Window.bucketWidth_pos v.window
  have hread : ChartSums.checkedRead v.base v.bucketWidth =
      fun s t => some (s.read v.base v.bucketWidth t) := by
    funext s t
    exact ChartSums.checkedRead_eq hw s t
  rw [checkedSums, hread]
  exact List.foldlM_pure

theorem checkedChart_eq (v : View) (palette : Palette) (trades : List Trade) :
    v.checkedChart palette trades = some (v.chart palette trades) := by
  rw [checkedChart, checkedSums_eq]
  change (v.sums trades).checkedPricePoints.bind _ = _
  rw [ChartSums.checkedPricePoints_eq]
  rfl

end View

end TradeCharts
