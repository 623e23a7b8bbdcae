/-! Time zones, and the databases that have them by name. -/
namespace TradeCharts

/-- A time zone tells at each moment how many seconds it is ahead of universal time. -/
structure Zone where
  offsetAt : Int → Int

namespace Zone

def fixed (offset : Int) : Zone :=
  ⟨fun _ => offset⟩

def utc : Zone :=
  fixed 0

end Zone

inductive ZoneError where
  | unknown
  /-- The lookup itself fails, as when the system does not open the file of a zone. -/
  | failed (kind text : String)
  deriving DecidableEq, Repr

/-- A database of time zones: for each name its zone, or why it has none. -/
abbrev ZoneDatabase := String → Except ZoneError Zone

/-- `UTC` in any case is universal time; every other name is looked up as it stands. -/
def ZoneDatabase.find (zones : ZoneDatabase) (name : String) : Except ZoneError Zone :=
  if name.map Char.toUpper == "UTC" then .ok .utc else zones name

def Zone.unknownMessage (name : String) : String :=
  s!"Unknown timezone '{name}'"

end TradeCharts
