import TradeCharts.Chart
import TradeCharts.Command.Options
import TradeCharts.Document
import TradeCharts.Gaps
import TradeCharts.History
import TradeCharts.Pair
/-! The documents that commands show. -/
namespace TradeCharts

inductive Action where
  | pairs
  | chart (base quote : Option String) (window now : Option Int) (flip : Bool)
  | history (theme : Option Theme)
  | gaps (bounds : Gaps.Bounds)
  deriving DecidableEq, Repr

def Verb.action (o : Options) : Verb → Action
  | pairs => .pairs
  | chart => .chart o.base o.quote o.window o.now o.flip
  | history => .history o.theme
  | gaps => .gaps ⟨o.start, o.stop⟩

structure Context where
  settings : Settings
  now : Int
  trades : List Trade

/-- The field of a place, -1 for none. -/
def Document.ofPlace : Option Nat → Document
  | some i => .integer i
  | none => .integer (-1)

def Token.toDocument (t : Token) : Document :=
  .record [("address", .text t.address), ("label", .text t.label)]

def Pair.toDocument (p : Pair) : Document :=
  .record [("label", .text p.label), ("base", p.base.toDocument), ("quote", p.quote.toDocument)]

def PricePoint.toFields (p : PricePoint) : List (String × Document) :=
  [("time", .integer p.time), ("value", .number p.value)]

def ColoredPoint.toFields (p : ColoredPoint) : List (String × Document) :=
  [("time", .integer p.time), ("value", .number p.value)] ++
    p.color.toList.map fun color => ("color", .text color)

namespace Report

def pairs (trades : List Trade) : Document :=
  let found := tradedPairs trades
  let place := (defaultPair? trades).bind (·.indexIn? found)
  .record [("pairs", .list (found.map Pair.toDocument)), ("default_index", .ofPlace place)]

/-- The addresses that a chart is of: those given, or those of the default pair. -/
def addresses (base quote : Option String) (flip : Bool) (trades : List Trade) :
    Except CommandError (String × String) :=
  match base, quote with
  | some b, some q => .ok (if flip then (q, b) else (b, q))
  | none, none => match defaultPair? trades with
    | none => .error .noTrades
    | some p =>
      let p := if flip then p.flip else p
      .ok (p.base.address, p.quote.address)
  | _, _ => .error (.usage .halfPair)

def labelled (window : Int) (zone : Zone) (points : List (Int × List (String × Document))) :
    Except CommandError Document := do
  let items ← points.mapM fun (time, fields) =>
    match Label.ofSeconds time window zone with
    | .ok label => .ok (.record (fields ++ [("label", .text label)]))
    | .error cause => .error (.failed (.unlabelled cause))
  return .list items

def chart (settings : Settings) (view : View) (trades : List Trade) :
    Except CommandError Document := do
  let series := view.chart settings.palette trades
  let zone := settings.chart.zone.zone
  let colored (points : List ColoredPoint) :=
    labelled view.window zone (points.map fun p => (p.time, p.toFields))
  let prices ← labelled view.window zone (series.prices.map fun p => (p.time, p.toFields))
  let buys ← colored series.buyVolumes
  let sells ← colored series.sellVolumes
  return .record [("base", .text view.base), ("quote", .text view.quote),
    ("time_delta_seconds", .integer view.window), ("bucket_seconds", .integer view.bucketWidth),
    ("price_points", prices), ("buy_volume_points", buys), ("sell_volume_points", sells)]

def history (theme : Theme) (trades : List Trade) : Document :=
  .list ((History.points theme.name trades).map fun p => .record p.toFields)

def gaps (s : GapStats) : Document :=
  .record [("average", .number s.average), ("minimum", .number s.minimum),
    ("maximum", .number s.maximum)]

end Report

namespace Action

def view (c : Context) (base quote : Option String) (window now : Option Int) (flip : Bool) :
    Except CommandError View := do
  let (base, quote) ← Report.addresses base quote flip c.trades
  return ⟨base, quote, window.getD c.settings.chart.window.seconds, now.getD c.now⟩

def document (c : Context) : Action → Except CommandError Document
  | pairs => .ok (Report.pairs c.trades)
  | chart base quote window now flip => do
    Report.chart c.settings (← view c base quote window now flip) c.trades
  | history theme => .ok (Report.history (theme.getD c.settings.chart.theme) c.trades)
  | gaps bounds => match Gaps.stats? bounds c.trades with
    | some stats => .ok (Report.gaps stats)
    | none => .error (.failed .beyondDoubles)

def log (c : Context) : Action → List LogEntry
  | pairs => []
  | chart base quote window now flip => match view c base quote window now flip with
    | .ok v => v.log c.trades
    | .error _ => []
  | history _ => History.log c.trades
  | gaps bounds => Gaps.log bounds c.trades

end Action

end TradeCharts
