import TradeCharts.Log
import TradeCharts.Numeric.Binary64
/-! The cadence of trades: the seconds between consecutive ones. -/
namespace TradeCharts

structure GapStats where
  average : Float
  minimum : Float
  maximum : Float
  deriving DecidableEq, Repr

namespace Gaps

/-- Bounds on the times that count, both ends included. -/
structure Bounds where
  start : Option Int
  stop : Option Int
  deriving DecidableEq, Repr

def Bounds.admits (b : Bounds) (time : Int) : Bool :=
  (match b.start with
    | some s => s ≤ time
    | none => true) &&
  (match b.stop with
    | some s => time ≤ s
    | none => true)

def times (b : Bounds) (trades : List Trade) : List Int :=
  ((trades.map (·.timestamp)).filter b.admits).mergeSort

def differences (times : List Int) : List Int :=
  List.zipWith (fun earlier later => later - earlier) times times.tail

/-- The statistics of a list of gaps, none when a gap is beyond the doubles. -/
def ofDifferences? : List Int → Option GapStats
  | [] => some ⟨0.0, 0.0, 0.0⟩
  | gap :: rest => do
    let average ← Binary64.ofInt? ((rest.foldl (· + ·) gap).fdiv (rest.length + 1))
    let minimum ← Binary64.ofInt? (rest.foldl min gap)
    let maximum ← Binary64.ofInt? (rest.foldl max gap)
    return ⟨average, minimum, maximum⟩

def stats? (b : Bounds) (trades : List Trade) : Option GapStats :=
  ofDifferences? (differences (times b trades))

def log (b : Bounds) (trades : List Trade) : List LogEntry :=
  let ts := times b trades
  match (differences ts).length with
  | 0 => []
  | n => [.gapsComputed n ts.length]

end Gaps

end TradeCharts
