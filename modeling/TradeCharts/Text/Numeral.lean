import TradeCharts.Numeric.Power
import TradeCharts.Text.Blank
import TradeCharts.Text.DecimalDigit
/-! Whole numbers as texts, and the limit on the number of their digits. -/
namespace TradeCharts.Text

/-- Conversions between decimal texts and whole numbers stop at this many digits. -/
def digitLimit : Nat := 4300

inductive DigitLimitExceeded where
  | reading (digits : Nat)
  | writing
  deriving DecidableEq, Repr

namespace DigitLimitExceeded

def detail : DigitLimitExceeded → String
  | reading n => s!": value has {n} digits"
  | writing => ""

def message (e : DigitLimitExceeded) : String :=
  s!"Exceeds the limit ({digitLimit} digits) for integer string conversion{e.detail}; " ++
    "use sys.set_int_max_str_digits() to increase the limit"

end DigitLimitExceeded

def readDigits (cs : List Char) : Except DigitLimitExceeded Nat :=
  if cs.length ≤ digitLimit then .ok (digitsValue cs) else .error (.reading cs.length)

/-- Whether a whole number is within the digit limit. -/
def isWritable (n : Int) : Bool :=
  n.natAbs < tenTo digitLimit

/-- Removes underscores that stand between two characters of a class, `none` when one stands
elsewhere. The truth value tells whether the character before was of the class. -/
def joinGroups (p : Char → Bool) : Bool → List Char → Option (List Char)
  | _, [] => some []
  | true, '_' :: c :: rest =>
    if p c then (joinGroups p true rest).map (c :: ·) else none
  | _, c :: rest =>
    if c = '_' then none else (joinGroups p (p c) rest).map (c :: ·)

def joinDigitGroups (cs : List Char) : Option (List Char) :=
  joinGroups isAsciiDigit false cs

/-- A decimal digit of any script as an ASCII digit, every other character as it is. -/
def toAsciiDigit (c : Char) : Char :=
  match digitValue? c with
  | some d => Char.ofNat (0x30 + d)
  | none => c

def splitSign : List Char → Bool × List Char
  | '-' :: rest => (true, rest)
  | '+' :: rest => (false, rest)
  | cs => (false, cs)

def signed (negative : Bool) (n : Nat) : Int :=
  if negative then -(n : Int) else n

/-- Reads a whole number: white space around it, one sign, and digits of any script in groups joined
by single underscores, within the digit limit. -/
def readInt? (s : String) : Option Int :=
  let (negative, body) := splitSign ((trimBoth isWhiteSpace s.toList).map toAsciiDigit)
  match joinDigitGroups body with
  | some ds =>
    if !ds.isEmpty && ds.all isAsciiDigit && ds.length ≤ digitLimit then
      some (signed negative (digitsValue ds))
    else none
  | none => none

end TradeCharts.Text
