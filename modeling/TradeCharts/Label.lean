import TradeCharts.Calendar
import TradeCharts.Numeric.Binary64
import TradeCharts.Window
import TradeCharts.Zone
/-! Axis labels: the moment of a point in a time zone, in the precision that suits the window. -/
namespace TradeCharts

inductive LabelError where
  | beyondClock
  /-- The year does not fit the 32 bits of a broken-down time. -/
  | beyondYears
  | yearOutOfRange (year : Int)
  /-- The year in the zone is not one of 1 to 9999. -/
  | localOutOfRange
  | notANumber
  deriving DecidableEq, Repr

namespace Label

/-- A broken-down time counts years from this one. -/
def yearOrigin : Int := 1900

def monthName (month : Nat) : String :=
  ["Jan", "Feb", "Mar", "Apr", "May", "Jun", "Jul", "Aug", "Sep", "Oct", "Nov", "Dec"].getD
    (month - 1) ""

def twoDigits (n : Nat) : String :=
  if n < 10 then s!"0{n}" else toString n

/-- The text of a minute: day, hour and minute for windows up to a day, day and hour up to a week,
and the day alone beyond. -/
def render (window : Int) (m : Calendar.Minute) : String :=
  let day := s!"{monthName m.date.month} {m.date.day}"
  if window ≤ Window.day then s!"{day} {twoDigits m.hour}:{twoDigits m.minute}"
  else if window ≤ Window.week then s!"{day} {twoDigits m.hour}:00"
  else day

def fitsBits (bits : Nat) (n : Int) : Bool :=
  -(twoTo (bits - 1) : Int) ≤ n && n < twoTo (bits - 1)

/-- The label of a moment, in seconds since 1970, for a window and a zone. A year that cannot be
shown is reported in 32 bits, as it is kept in a broken-down time. -/
def ofSeconds (seconds window : Int) (zone : Zone) : Except LabelError String :=
  let year := (Calendar.minuteOf seconds).date.year
  if !fitsBits 64 seconds then .error .beyondClock
  else if !fitsBits 32 (year - yearOrigin) then .error .beyondYears
  else if !Calendar.inRange year then .error (.yearOutOfRange (year.bmod (twoTo 32)))
  else
    let there := Calendar.minuteOf (seconds + zone.offsetAt seconds)
    if Calendar.inRange there.date.year then .ok (render window there)
    else .error .localOutOfRange

/-- The whole part of a finite double, rounded toward zero, and its fraction. -/
def splitFraction (x : Float) : Int × Float :=
  let d := Binary64.dyadic x
  let negative := Binary64.isNegative x
  (Text.signed negative (d.num / d.den),
    Binary64.withSign negative (Binary64.nearest (d.num % d.den) d.den))

def roundToEven (x : Float) : Int :=
  let d := Binary64.dyadic x
  Text.signed (Binary64.isNegative x) (Binary64.roundHalfEven d.num d.den)

/-- The second of a finite moment that is first rounded to whole microseconds. -/
def secondOf (x : Float) : Int :=
  let (whole, fraction) := splitFraction x
  let micros := roundToEven (fraction * 1000000.0)
  if 1000000 ≤ micros then whole + 1 else if micros < 0 then whole - 1 else whole

/-- The label of a moment given as a double. The last second of the clock is 2^63 when it is rounded
to a double, so that moment is within the clock, although beyond its years. -/
def ofFloat (x : Float) (window : Int) (zone : Zone) : Except LabelError String :=
  if x.isNaN then .error .notANumber
  else if !x.isFinite then .error .beyondClock
  else if secondOf x = twoTo 63 then .error .beyondYears
  else ofSeconds (secondOf x) window zone

end Label

end TradeCharts
