/-!
The proleptic Gregorian calendar, without leap seconds. Days are counted from 1970-01-01; every day,
also before the year 1, has a date.
-/
namespace TradeCharts.Calendar

structure Date where
  year : Int
  month : Nat
  day : Nat
  deriving DecidableEq, Repr

def isLeap (y : Int) : Bool :=
  y % 4 == 0 && (y % 100 != 0 || y % 400 == 0)

def monthLengths (leap : Bool) : List Nat :=
  [31, if leap then 29 else 28, 31, 30, 31, 30, 31, 31, 30, 31, 30, 31]

def Date.isValid (d : Date) : Bool :=
  1 ≤ d.month && 1 ≤ d.day && d.day ≤ (monthLengths (isLeap d.year)).getD (d.month - 1) 0

/-- The number of days from 0001-01-01 to the first day of a year. -/
def daysBeforeYear (y : Int) : Int :=
  let p := y - 1
  365 * p + p / 4 - p / 100 + p / 400

def epochDay : Int := 719162

/-- The year of a day counted from 0001-01-01. The average length of a year gives a guess that is
off by one at most. -/
def yearOfDay (n : Int) : Int :=
  let guess := 400 * n / 146097 + 1
  if n < daysBeforeYear guess then guess - 1
  else if daysBeforeYear (guess + 1) ≤ n then guess + 1
  else guess

/-- The month that holds a day of the year, counted from `month`, and the place of the day in it.
Months are counted from one, days of the year from zero. -/
def splitMonths (month : Nat) : List Nat → Nat → Nat × Nat
  | [], n => (month, n + 1)
  | len :: rest, n => if n < len then (month, n + 1) else splitMonths (month + 1) rest (n - len)

/-- The date of a day counted from 1970-01-01. -/
def dateOfDay (day : Int) : Date :=
  let n := day + epochDay
  let y := yearOfDay n
  let (m, d) := splitMonths 1 (monthLengths (isLeap y)) (n - daysBeforeYear y).toNat
  ⟨y, m, d⟩

def daySeconds : Int := 86400

structure Minute where
  date : Date
  hour : Nat
  minute : Nat
  deriving DecidableEq, Repr

def minuteOf (seconds : Int) : Minute :=
  let s := (seconds % daySeconds).toNat
  ⟨dateOfDay (seconds / daySeconds), s / 3600, s / 60 % 60⟩

def inRange (year : Int) : Bool :=
  1 ≤ year && year ≤ 9999

end TradeCharts.Calendar
