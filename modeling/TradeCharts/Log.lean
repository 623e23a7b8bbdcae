import TradeCharts.Trade
/-! What the library reports while it works. A log is a list of entries, returned beside the
result. -/
namespace TradeCharts

inductive LogLevel where
  | debug
  | info
  | warning
  | error
  deriving DecidableEq, Repr

def LogLevel.name : LogLevel → String
  | debug => "DEBUG"
  | info => "INFO"
  | warning => "WARNING"
  | error => "ERROR"

/-- The rank of a level: what is wanted from a level on has at least its rank. -/
def LogLevel.rank : LogLevel → Nat
  | debug => 10
  | info => 20
  | warning => 30
  | error => 40

inductive SkipReason where
  | nonNumericAmount
  | zeroBaseAmount
  | unusableAmounts
  | nonFiniteRatio
  deriving DecidableEq, Repr

def SkipReason.text : SkipReason → String
  | nonNumericAmount => "non-numeric amount"
  | zeroBaseAmount => "zero base amount"
  | unusableAmounts => "unusable amounts"
  | nonFiniteRatio => "non-finite ratio"

structure PairSummary where
  base : String
  quote : String
  inWindow : Nat
  total : Nat
  skipped : Nat
  merged : Nat
  pricePoints : Nat
  buyBuckets : Nat
  sellBuckets : Nat
  deriving DecidableEq, Repr

def PairSummary.text (s : PairSummary) : String :=
  s!"Pair {s.base}/{s.quote}: {s.inWindow} of {s.total} trades in window, " ++
    s!"{s.skipped} skipped, {s.merged} trades merged into {s.pricePoints} price points, " ++
    s!"{s.buyBuckets} buy buckets, {s.sellBuckets} sell buckets"

inductive LogEntry where
  | skipped (trade : Trade) (reason : SkipReason)
  | pairSummary (summary : PairSummary)
  | droppedPoint (time : Int)
  | gapsComputed (gaps trades : Nat)
  | snapshotLoaded (trades : Nat) (path : String)
  | settingsLoading (source : String)
  deriving DecidableEq, Repr

namespace LogEntry

/-- The level of an entry: files that are read are news, details of a computation are not. -/
def level : LogEntry → LogLevel
  | snapshotLoaded .. | settingsLoading .. => .info
  | _ => .debug

def message : LogEntry → String
  | skipped t reason => s!"Skipping trade {t.displayName}: {reason.text}"
  | pairSummary s => s.text
  | droppedPoint time => s!"Dropping merged point at {time}: non-finite value"
  | gapsComputed gaps trades => s!"Computed {gaps} gaps over {trades} trades"
  | snapshotLoaded trades path => s!"Loaded {trades} trades from {path}"
  | settingsLoading source => s!"Loading config from {source}"

def line (e : LogEntry) : String :=
  s!"{e.level.name} {e.message}"

end LogEntry

end TradeCharts
