import TradeCharts.Trade

/-! Trades that tell no more than what was exchanged and when, with the rest as in records that
leave it out. -/
namespace TradeCharts

def BalanceChange.plain (address : String) (amount : FormattedAmount) : BalanceChange :=
  ⟨⟨address, none, none, 18⟩, .text "0", amount, none⟩

namespace Trade

def plain (time : Int) (input output : BalanceChange) : Trade :=
  ⟨.text "", time, input, output, none⟩

/-- A trade of an amount of one token for an amount of another. -/
def exchange (time : Int) (paid : String) (paidAmount : Float) (received : String)
    (receivedAmount : Float) : Trade :=
  plain time (.plain paid (.number paidAmount)) (.plain received (.number receivedAmount))

/-- A trade of one unit of each of two tokens. -/
def ofAddresses (time : Int) (input output : String) : Trade :=
  plain time (.plain input (.text "1")) (.plain output (.text "1"))

end Trade

end TradeCharts
