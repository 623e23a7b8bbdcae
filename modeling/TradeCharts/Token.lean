import TradeCharts.Text.Blank
import TradeCharts.Text.LowerCase
/-! Tokens: the assets that trades exchange, their keys and their display labels. -/
namespace TradeCharts

/-- A fungible asset. Amounts arrive scaled, so the decimals are informative only. -/
structure Token where
  address : String
  symbol : Option String
  name : Option String
  decimals : Int
  deriving DecidableEq, Repr

namespace Token

/-- The lower-case address, by which tokens are compared. -/
def key (t : Token) : String :=
  Text.lower t.address

/-- An address of ten characters or more shows its first six and last four. -/
def shortAddress (address : String) : String :=
  let cs := address.toList
  if 10 ≤ cs.length then
    String.ofList (cs.take 6 ++ ['.', '.', '.'] ++ cs.drop (cs.length - 4))
  else address

def label (t : Token) : String :=
  match t.symbol with
  | some s => if Text.isAllBlank s then shortAddress t.address else s
  | none => shortAddress t.address

end Token

end TradeCharts
