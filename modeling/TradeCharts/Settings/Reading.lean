import TradeCharts.Settings
import TradeCharts.Validation
/-! Reading settings out of the fields of a document. Every setting is a text; one that is not given
has its standard value. -/
namespace TradeCharts

/-- A text that a rule turns into a value or refuses for a reason. -/
def Checked.textBy {α : Type} (rule : String → Except String α) : Json → Checked α
  | .text s => match rule s with
    | .ok a => .valid a
    | .error reason => fault (.rejected reason)
  | _ => fault .notText

def WindowSetting.ofText (s : String) : Except String WindowSetting :=
  match Window.parseText s with
  | .ok n => .ok ⟨s, n⟩
  | .error e => .error e.message

def Theme.ofText (s : String) : Except String Theme :=
  match ofName? s with
  | some theme => .ok theme
  | none => .error (unknownMessage s)

def ZoneSetting.ofText (zones : ZoneDatabase) (s : String) : Except String ZoneSetting :=
  match zones.find s with
  | .ok zone => .ok ⟨s, zone⟩
  | .error _ => .error (Zone.unknownMessage s)

def ChartSettings.ofJson (zones : ZoneDatabase) : Json → Checked ChartSettings :=
  Checked.object "ChartConfig" fun fields =>
    let field {α : Type} (name : String) (default : α) (rule : String → Except String α) :=
      Checked.withDefault fields (.single name) default (Checked.textBy rule)
    ChartSettings.mk
      <$> field "time_delta" standard.window WindowSetting.ofText
      <*> field "color_theme" standard.theme Theme.ofText
      <*> field "timezone" standard.zone (ZoneSetting.ofText zones)

def Palette.ofJson : Json → Checked Palette :=
  Checked.object "ChartColors" fun fields =>
    let color (name : String) (default : String) :=
      Checked.withDefault fields (.single name) default Checked.text
    Palette.mk
      <$> color "buy_volume" standard.buyVolume
      <*> color "buy_volume_transparent" standard.buyVolumeTransparent
      <*> color "sell_volume" standard.sellVolume
      <*> color "sell_volume_transparent" standard.sellVolumeTransparent
      <*> color "price_line" standard.priceLine
      <*> color "zero_line" standard.zeroLine

def Settings.ofFields (zones : ZoneDatabase) (fields : List (String × Json)) : Checked Settings :=
  Settings.mk
    <$> Checked.withDefault fields (.single "chart") standard.chart (ChartSettings.ofJson zones)
    <*> Checked.withDefault fields (.single "colors") standard.palette Palette.ofJson

/-- The name of the time zone that some fields set, when it is a text. -/
def Settings.zoneName? (fields : List (String × Json)) : Option String :=
  match fields.lookup "chart" with
  | some (.object chart) => match chart.lookup "timezone" with
    | some (.text name) => some name
    | _ => none
  | _ => none

end TradeCharts
