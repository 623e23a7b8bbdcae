import TradeCharts.Text.LowerCase
import TradeCharts.Text.Numeral
import TradeCharts.Text.Quoted
/-! Time windows and the widths of the buckets that suit them. Wider windows have coarser buckets,
so the number of buckets stays bounded. -/
namespace TradeCharts

open Text

inductive WindowUnit where
  | second
  | minute
  | hour
  | day
  | week
  | year
  deriving DecidableEq, Repr

namespace WindowUnit

def seconds : WindowUnit → Nat
  | second => 1
  | minute => 60
  | hour => 3600
  | day => 86400
  | week => 604800
  | year => 31536000

def ofLetter? : Char → Option WindowUnit
  | 's' => some second
  | 'm' => some minute
  | 'h' => some hour
  | 'd' => some day
  | 'w' => some week
  | 'y' => some year
  | _ => none

/-- The unit that the rest of a window text after its digits names: seconds when nothing follows. -/
def ofRest? : List Char → Option WindowUnit
  | [] => some second
  | [c] => ofLetter? c
  | _ => none

end WindowUnit

inductive WindowSpec where
  | text (value : String)
  | seconds (value : Int)
  deriving DecidableEq, Repr

inductive WindowError where
  | malformed (text : String)
  | tooLong (cause : DigitLimitExceeded)
  | notPositive (spec : WindowSpec)
  deriving DecidableEq, Repr

def WindowError.message : WindowError → String
  | malformed s => s!"Invalid time window '{s}'. Expected e.g. 24h, 7d, 30d, 1y or seconds."
  | tooLong cause => cause.message
  | notPositive (.text s) => s!"Time window must be positive, got {quoted s}"
  | notPositive (.seconds n) => s!"Time window must be positive, got {n}"

namespace Window

def day : Int := 86400

def week : Int := 604800

/-- Thirty days in seconds. -/
def month : Int := 2592000

/-- The length of a window in seconds: digits with a unit letter behind them, in either case and
with blanks around them, or a bare number of seconds. -/
def parseText (s : String) : Except WindowError Int :=
  let cs := lowerChars (trim s.toList)
  let digits := cs.takeWhile isDecimalDigit
  match digits.isEmpty, WindowUnit.ofRest? (cs.dropWhile isDecimalDigit) with
  | false, some unit =>
    match readDigits digits with
    | .error e => .error (.tooLong e)
    | .ok n =>
      if n * unit.seconds = 0 then .error (.notPositive (.text s)) else .ok (n * unit.seconds)
  | _, _ => .error (.malformed s)

def parse : WindowSpec → Except WindowError Int
  | .text s => parseText s
  | .seconds n => if n ≤ 0 then .error (.notPositive (.seconds n)) else .ok n

/-- The bucket width for a window: a quarter of an hour up to a day, an hour up to a week, four
hours up to a month of thirty days, a day beyond. -/
def bucketWidth (window : Int) : Int :=
  if window ≤ day then 900
  else if window ≤ week then 3600
  else if window ≤ month then 14400
  else 86400

/-- The start of the bucket of a time: the largest multiple of the width that is not after it. -/
def bucketStart (time width : Int) : Int :=
  time.fdiv width * width

def bucketStart? (time width : Int) : Option Int :=
  if width = 0 then none else some (bucketStart time width)

end Window

end TradeCharts
