import TradeCharts.Amount
import TradeCharts.Log
import TradeCharts.Palette
import TradeCharts.Series
import TradeCharts.Window
/-! The chart of a pair over a window, which a view ends at `now`. Trades of the pair within the window
are oriented against the base token, which they buy when it is on their input side; those without
usable amounts are skipped and reported; the others are summed twice, by exact time for prices and by
bucket and direction for volumes. -/
namespace TradeCharts

structure View where
  base : String
  quote : String
  window : Int
  now : Int
  deriving DecidableEq, Repr

structure Execution where
  timestamp : Int
  baseAmount : Float
  quoteAmount : Float
  isBuy : Bool
  deriving DecidableEq, Repr

def Trade.matches (t : Trade) (base quote : String) : Bool :=
  let b := Text.lower base
  let q := Text.lower quote
  (t.inputKey == b && t.outputKey == q) || (t.inputKey == q && t.outputKey == b)

def Trade.buys (t : Trade) (base : String) : Bool :=
  t.inputKey == Text.lower base

/-- A trade oriented against the base token, when both of its amounts are finite. -/
def Trade.execution? (t : Trade) (base : String) : Option Execution :=
  match t.inputAmount?, t.outputAmount? with
  | some i, some o =>
    some (if t.buys base then ⟨t.timestamp, i, o, true⟩ else ⟨t.timestamp, o, i, false⟩)
  | _, _ => none

namespace View

def admits (v : View) (t : Trade) : Bool :=
  v.now - v.window ≤ t.timestamp && t.timestamp ≤ v.now && t.matches v.base v.quote

def bucketWidth (v : View) : Int :=
  Window.bucketWidth v.window

end View

/-- The sums over the trades read so far, and the skips reported, latest first. -/
structure ChartSums where
  prices : Timeline PriceTotals
  buys : VolumeBuckets
  sells : VolumeBuckets
  skips : List LogEntry
  deriving Repr

namespace ChartSums

def empty : ChartSums :=
  ⟨.empty, .empty, .empty, []⟩

def skip (s : ChartSums) (t : Trade) (reason : SkipReason) : ChartSums :=
  { s with skips := .skipped t reason :: s.skips }

/-- Adds an execution to the totals of its moment and to the bucket of its direction. -/
def add (s : ChartSums) (width : Int) (e : Execution) : ChartSums :=
  let start := Window.bucketStart e.timestamp width
  { s with
    prices := s.prices.update e.timestamp fun totals? =>
      (totals?.getD .zero).add e.baseAmount e.quoteAmount
    buys := if e.isBuy then s.buys.add start e.baseAmount else s.buys
    sells := if e.isBuy then s.sells else s.sells.add start e.baseAmount }

def read (base : String) (width : Int) (s : ChartSums) (t : Trade) : ChartSums :=
  match t.execution? base with
  | none => s.skip t .nonNumericAmount
  | some e => if e.baseAmount == 0.0 then s.skip t .zeroBaseAmount else s.add width e

def merged (s : ChartSums) : Nat :=
  s.prices.entries.foldl (fun n (_, totals) => n + totals.trades) 0

def pricePoints (s : ChartSums) : List PricePoint :=
  s.prices.entries.filterMap fun (time, totals) => totals.point? time

end ChartSums

structure PairChart where
  prices : List PricePoint
  buyVolumes : List ColoredPoint
  sellVolumes : List ColoredPoint
  deriving DecidableEq, Repr

namespace View

def trades (v : View) (trades : List Trade) : List Trade :=
  trades.filter v.admits

def places (v : View) (trades : List Trade) : List Nat :=
  (trades.zipIdx.filter fun (t, _) => v.admits t).map (·.2)

def sums (v : View) (trades : List Trade) : ChartSums :=
  (v.trades trades).foldl (ChartSums.read v.base v.bucketWidth) .empty

def chart (v : View) (palette : Palette) (trades : List Trade) : PairChart :=
  let s := v.sums trades
  { prices := s.pricePoints
    buyVolumes := s.buys.points (some palette.buyVolume) false
    sellVolumes := s.sells.points (some palette.sellVolume) true }

def summary (v : View) (trades : List Trade) : PairSummary :=
  let s := v.sums trades
  { base := v.base
    quote := v.quote
    inWindow := (v.trades trades).length
    total := trades.length
    skipped := s.skips.length
    merged := s.merged
    pricePoints := s.pricePoints.length
    buyBuckets := s.buys.size
    sellBuckets := s.sells.size }

def log (v : View) (trades : List Trade) : List LogEntry :=
  (v.sums trades).skips.reverse ++ [.pairSummary (v.summary trades)]

end View

end TradeCharts
