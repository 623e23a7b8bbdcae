import TradeCharts.Trade
/-!
Trading pairs. A trade does not order its two tokens; a pair does: its price is quote per base. By
default the token with the smaller key is the base.
-/
namespace TradeCharts

structure Pair where
  base : Token
  quote : Token
  deriving DecidableEq, Repr

namespace Pair

def label (p : Pair) : String :=
  s!"{p.base.label}/{p.quote.label}"

def flip (p : Pair) : Pair :=
  ⟨p.quote, p.base⟩

/-- The pair of two tokens whose base has the smaller key. Of equal keys the second comes first. -/
def canonical (a b : Token) : Pair :=
  if a.key < b.key then ⟨a, b⟩ else ⟨b, a⟩

/-- The key of two tokens in either order: the smaller key, a hyphen, the larger key. -/
def key (a b : Token) : String :=
  if b.key < a.key then s!"{b.key}-{a.key}" else s!"{a.key}-{b.key}"

def same (p q : Pair) : Bool :=
  p.base.key == q.base.key && p.quote.key == q.quote.key

def indexIn? (target : Pair) (pairs : List Pair) : Option Nat :=
  pairs.findIdx? (·.same target)

end Pair

namespace Trade

def pairKey (t : Trade) : String :=
  Pair.key t.input.token t.output.token

def canonicalPair (t : Trade) : Pair :=
  Pair.canonical t.input.token t.output.token

end Trade

/-- The trades that bring a pair key not in `seen` and not brought by a trade before them. -/
def firstOfEachPair (seen : List String) : List Trade → List Trade
  | [] => []
  | t :: rest =>
    if seen.contains t.pairKey then firstOfEachPair seen rest
    else t :: firstOfEachPair (t.pairKey :: seen) rest

/-- The pairs traded, one for each pair key, in order of first appearance and with the tokens of the
first trade that has the key. -/
def tradedPairs (trades : List Trade) : List Pair :=
  (firstOfEachPair [] trades).map Trade.canonicalPair

/-- The first of two trades unless the second is strictly earlier. -/
def earlier (t u : Trade) : Trade :=
  if u.timestamp < t.timestamp then u else t

def oldestTrade? : List Trade → Option Trade
  | [] => none
  | t :: rest => some (rest.foldl earlier t)

def defaultPair? (trades : List Trade) : Option Pair :=
  (oldestTrade? trades).map Trade.canonicalPair

end TradeCharts
