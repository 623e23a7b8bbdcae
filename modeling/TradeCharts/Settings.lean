import TradeCharts.Palette
import TradeCharts.Window
import TradeCharts.Zone
/-! Settings: the window, theme and time zone of charts, and the colours of their series. -/
namespace TradeCharts

inductive Theme where
  | dark
  | light
  deriving DecidableEq, Repr

namespace Theme

def name : Theme → String
  | dark => "dark"
  | light => "light"

def all : List Theme := [dark, light]

def ofName? (s : String) : Option Theme :=
  all.find? (·.name == s)

def unknownMessage (s : String) : String :=
  let names := ", ".intercalate (all.map name)
  s!"color_theme must be one of {names}, got '{s}'"

end Theme

structure WindowSetting where
  text : String
  seconds : Int
  deriving DecidableEq, Repr

structure ZoneSetting where
  name : String
  zone : Zone

structure ChartSettings where
  window : WindowSetting
  theme : Theme
  zone : ZoneSetting

def ChartSettings.standard : ChartSettings :=
  ⟨⟨"24h", Window.day⟩, .dark, ⟨"UTC", .utc⟩⟩

structure Settings where
  chart : ChartSettings
  palette : Palette

def Settings.standard : Settings :=
  ⟨.standard, .standard⟩

end TradeCharts
