/-! Colours of the series. -/
namespace TradeCharts

structure Palette where
  buyVolume : String
  buyVolumeTransparent : String
  sellVolume : String
  sellVolumeTransparent : String
  priceLine : String
  zeroLine : String
  deriving DecidableEq, Repr

def Palette.standard : Palette :=
  ⟨"#26a69a", "rgba(38, 166, 154, 0.5)", "#ef5350", "rgba(239, 83, 80, 0.5)", "#5c6bc0", "#888888"⟩

/-- The colour of the history of an order; every theme but `dark` is light. -/
def historyColor (theme : String) : String :=
  if theme == "dark" then "#5178FF" else "#4E4AF6"

end TradeCharts
