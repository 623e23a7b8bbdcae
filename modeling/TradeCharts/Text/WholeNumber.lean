import TradeCharts.Text.Numeral
/-!
Whole numbers in texts that others wrote. The strict form of a number is a minus, if it has one, and
its digits without leading zeros. A text in another form is tidied once and then has to be strict.
-/
namespace TradeCharts.Text

inductive WholeNumberError where
  | malformed
  /-- The text starts with more digits than the limit allows. -/
  | tooLong
  deriving DecidableEq, Repr

namespace WholeNumber

def splitMinus : List Char → Bool × List Char
  | '-' :: rest => (true, rest)
  | cs => (false, cs)

def hasLeadingZero : List Char → Bool
  | '0' :: _ :: _ => true
  | _ => false

/-- Reads a number in strict form. Too many digits are refused as such whatever follows them. -/
def readStrict (cs : List Char) : Except WholeNumberError Int :=
  let (negative, body) := splitMinus cs
  let digits := body.takeWhile isAsciiDigit
  if digits.isEmpty || hasLeadingZero digits then .error .malformed
  else if digitLimit < digits.length then .error .tooLong
  else if digits.length < body.length then .error .malformed
  else .ok (signed negative (digitsValue digits))

/-- A zero, or an underscore that stands among leading zeros. -/
def isFiller (c : Char) : Bool :=
  c == '0' || c == '_'

/-- Drops leading zeros in front of a digit or a minus. In front of anything else the last one
stays. -/
def dropLeadingZeros (cs : List Char) : List Char :=
  let rest := cs.dropWhile isFiller
  if rest.head?.any fun c => isAsciiDigit c || c == '-' then rest
  else (cs.takeWhile isFiller).getLast?.toList ++ rest

def isZeroFraction : List Char → Bool
  | '.' :: zeros => !zeros.isEmpty && zeros.all (· == '0')
  | _ => false

def dropZeroFraction (cs : List Char) : List Char :=
  if isZeroFraction (cs.dropWhile (· != '.')) then cs.takeWhile (· != '.') else cs

/-- A text without white space around it, a plus, leading zeros, a fraction of zeros, and single
underscores inside. Only a sign may stand before the first digit. -/
def tidy? (cs : List Char) : Option (List Char) :=
  let (negative, body) := splitSign (trimBoth isWhiteSpace cs)
  if body.head?.any isAsciiDigit then
    (joinGroups (· != '_') false (dropZeroFraction (dropLeadingZeros body))).map fun ds =>
      if negative then '-' :: ds else ds
  else none

def read (s : String) : Except WholeNumberError Int :=
  match readStrict s.toList with
  | .error .malformed =>
    match (tidy? s.toList).map readStrict with
    | some (.ok n) => .ok n
    | _ => .error .malformed
  | result => result

end WholeNumber

end TradeCharts.Text
