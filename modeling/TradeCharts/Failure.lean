import TradeCharts.Files
import TradeCharts.Label
import TradeCharts.Text.Numeral
/-! Failures that end an operation without an answer, although nothing in its input was refused. -/
namespace TradeCharts

inductive Failure where
  | invalidText
  | nestedTooDeep
  | tooManyDigits (cause : Text.DigitLimitExceeded)
  | unopened (path : String) (cause : OpenFailure)
  | unlabelled (cause : LabelError)
  | beyondDoubles
  | zoneLookup (kind text : String)
  deriving DecidableEq, Repr

def LabelError.message : LabelError → String
  | beyondClock => "timestamp out of range for platform time_t"
  | beyondYears => "Value too large for defined data type"
  | yearOutOfRange year => s!"year {year} is out of range"
  | localOutOfRange => "date value out of range"
  | notANumber => "Invalid value NaN (not a number)"

def Failure.message : Failure → String
  | invalidText => "invalid UTF-8"
  | nestedTooDeep => "maximum recursion depth exceeded"
  | tooManyDigits cause => cause.message
  | unopened _ .nullCharacter => "embedded null byte"
  | unopened path cause => cause.message path
  | unlabelled cause => cause.message
  | beyondDoubles => "int too large to convert to float"
  | zoneLookup _ text => text

end TradeCharts
