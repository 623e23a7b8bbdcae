/-! Sets of code points, listed as disjoint ascending spans. -/
namespace TradeCharts.Text

/-- The code points from `first` to `last`, both included. -/
structure Span where
  first : Nat
  last : Nat
  deriving DecidableEq, Repr

def Span.contains (s : Span) (n : Nat) : Bool :=
  s.first ≤ n && n ≤ s.last

def inSpans (spans : List Span) (c : Char) : Bool :=
  spans.any (·.contains c.toNat)

end TradeCharts.Text
