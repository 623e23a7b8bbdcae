import TradeCharts.Token
/-! Trades: exchanges between two vaults, one change of balance on each side. -/
namespace TradeCharts

inductive TextOrInt where
  | text (value : String)
  | integer (value : Int)
  deriving DecidableEq, Repr

/-- A scaled amount, written as a text, which need not be a number, or as a double. -/
inductive FormattedAmount where
  | text (value : String)
  | number (value : Float)
  deriving DecidableEq, Repr

structure BalanceChange where
  token : Token
  amount : TextOrInt
  formattedAmount : FormattedAmount
  vaultId : Option TextOrInt
  deriving DecidableEq, Repr

structure Trade where
  id : TextOrInt
  timestamp : Int
  input : BalanceChange
  output : BalanceChange
  orderHash : Option String
  deriving DecidableEq, Repr

/-- Whether an identifier tells nothing: the empty text or zero. -/
def TextOrInt.isVoid : TextOrInt → Bool
  | .text s => s == ""
  | .integer n => n == 0

def TextOrInt.toText : TextOrInt → String
  | .text s => s
  | .integer n => toString n

namespace Trade

/-- The name of a trade in messages: its identifier, or its time when that tells nothing. -/
def displayName (t : Trade) : String :=
  if t.id.isVoid then toString t.timestamp else t.id.toText

def inputKey (t : Trade) : String :=
  t.input.token.key

def outputKey (t : Trade) : String :=
  t.output.token.key

end Trade

end TradeCharts
