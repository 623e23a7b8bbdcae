import TradeCharts.Pair
import TradeCharts.Trade.Reading
/-! Reading pairs out of JSON records. -/
namespace TradeCharts.Pair

def ofJson : Json → Checked Pair :=
  Checked.object "TradingPair" fun fields =>
    Pair.mk
      <$> Checked.required fields (.single "base_token") Token.ofJson
      <*> Checked.required fields (.single "quote_token") Token.ofJson

end TradeCharts.Pair
