import TradeCharts.Amount
import TradeCharts.Log
import TradeCharts.Palette
import TradeCharts.Series
/-!
The history of a single order: the ratio of input to output over time. Trades of one moment merge
into one ratio, weighted by their output amounts.
-/
namespace TradeCharts.History

structure Sample where
  ratio : Float
  weight : Float
  deriving DecidableEq, Repr

/-- The sample of a trade, or why it has none. -/
def sample (t : Trade) : Except SkipReason Sample :=
  match t.inputAmount?, t.outputAmount? with
  | some i, some o =>
    if o == 0.0 then .error .unusableAmounts
    else
      let ratio := i / o
      if ratio.isFinite then .ok ⟨ratio, o⟩ else .error .nonFiniteRatio
  | _, _ => .error .unusableAmounts

/-- The sum of doubles from left to right, starting from zero. -/
def sum (xs : List Float) : Float :=
  xs.foldl (· + ·) 0.0

/-- The ratio of the samples of one moment: a lone one as it is, several as a weighted mean. -/
def merge : List Sample → Float
  | [s] => s.ratio
  | samples => sum (samples.map fun s => s.ratio * s.weight) / sum (samples.map (·.weight))

/-- The samples read so far, by time and in their order, and the skips reported, latest first. -/
structure Groups where
  samples : Timeline (List Sample)
  skips : List LogEntry
  deriving Repr

def Groups.read (g : Groups) (t : Trade) : Groups :=
  match sample t with
  | .error reason => { g with skips := .skipped t reason :: g.skips }
  | .ok s => { g with samples := g.samples.update t.timestamp fun group? => group?.getD [] ++ [s] }

def groups (trades : List Trade) : Groups :=
  trades.foldl Groups.read ⟨.empty, []⟩

def points (theme : String) (trades : List Trade) : List ColoredPoint :=
  (groups trades).samples.entries.filterMap fun (time, samples) =>
    let value := merge samples
    if value.isFinite then some ⟨time, value, some (historyColor theme)⟩ else none

def log (trades : List Trade) : List LogEntry :=
  let g := groups trades
  g.skips.reverse ++ g.samples.entries.filterMap fun (time, samples) =>
    if (merge samples).isFinite then none else some (.droppedPoint time)

end TradeCharts.History
