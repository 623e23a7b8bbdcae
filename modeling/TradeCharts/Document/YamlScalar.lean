import TradeCharts.Document
import TradeCharts.Json.Lexeme
import TradeCharts.Numeric.FloatText
import TradeCharts.Path
import TradeCharts.Text.Quoted
/-! Texts as YAML scalars. A text is written plain when it would read back as a text: it must not
look like another kind of value, nor hold indicators where these count. Otherwise it is put between
single quotes, or between double quotes with escapes where single ones cannot show it. Long lines
are folded at single blanks. -/
namespace TradeCharts.Yaml

open Text

def isGrouped (isDigit : Char → Bool) (c : Char) : Bool :=
  isDigit c || c = '_'

/-- A non-empty run of digits of a class and underscores. -/
def isGroupedRun (isDigit : Char → Bool) (cs : List Char) : Bool :=
  !cs.isEmpty && cs.all (isGrouped isDigit)

def isDecimalRun : List Char → Bool
  | [] => false
  | c :: rest => isAsciiDigit c && rest.all (isGrouped isAsciiDigit)

/-- A base-sixty place: one digit, or two below 60. -/
def isSixtieth : List Char → Bool
  | [c] => isAsciiDigit c
  | [c, d] => '0' ≤ c && c ≤ '5' && isAsciiDigit d
  | _ => false

def splitAtMark (mark : Char) : List Char → List (List Char)
  | [] => [[]]
  | c :: rest =>
    if c = mark then [] :: splitAtMark mark rest
    else match splitAtMark mark rest with
      | part :: parts => (c :: part) :: parts
      | [] => [[c]]

def isSexagesimal (cs : List Char) : Bool :=
  match splitAtMark ':' cs with
  | whole :: place :: places => isDecimalRun whole && (place :: places).all isSixtieth
  | _ => false

def unsigned (cs : List Char) : List Char :=
  (splitSign cs).2

def isInteger (cs : List Char) : Bool :=
  let body := unsigned cs
  (match body with
    | '0' :: 'b' :: rest => isGroupedRun (fun c => c = '0' || c = '1') rest
    | '0' :: 'x' :: rest => isGroupedRun (fun c => (Json.hexValue? c).isSome) rest
    | ['0'] => true
    | '0' :: rest => isGroupedRun (fun c => '0' ≤ c && c ≤ '7') rest
    | _ => isDecimalRun body) ||
  (body.head? != some '0' && isSexagesimal body)

def isExponent : List Char → Bool
  | [] => true
  | e :: sign :: rest =>
    (e = 'e' || e = 'E') && (sign = '+' || sign = '-') && !rest.isEmpty && rest.all isAsciiDigit
  | _ => false

def isPointed (cs : List Char) : Bool :=
  let whole := cs.takeWhile (· != '.')
  match cs.dropWhile (· != '.') with
  | _ :: rest => isDecimalRun whole && isExponent (rest.dropWhile (isGrouped isAsciiDigit))
  | [] => false

def isFractionOnly : List Char → Bool
  | '.' :: d :: rest =>
    isAsciiDigit d && isExponent (rest.dropWhile (isGrouped isAsciiDigit))
  | _ => false

def isPointedSexagesimal (cs : List Char) : Bool :=
  match cs.dropWhile (· != '.') with
  | _ :: fraction =>
    isSexagesimal (cs.takeWhile (· != '.')) && fraction.all (isGrouped isAsciiDigit)
  | [] => false

def infinities : List String := [".inf", ".Inf", ".INF"]

def notNumbers : List String := [".nan", ".NaN", ".NAN"]

def isFloat (cs : List Char) : Bool :=
  let body := unsigned cs
  isPointed body || isFractionOnly cs || isPointedSexagesimal body ||
    infinities.contains (String.ofList body) || notNumbers.contains (String.ofList cs)

/-- The words that are no texts: truth values, null, and the marks of merging and of defaults. -/
def reservedWords : List String := [
  "yes", "Yes", "YES", "no", "No", "NO", "true", "True", "TRUE", "false", "False", "FALSE",
  "on", "On", "ON", "off", "Off", "OFF", "", "~", "null", "Null", "NULL", "<<", "="]

/-- What follows a run of digits, of which there are at least `low` and of which at most `high` are
taken. -/
def afterDigits (low high : Nat) (cs : List Char) : Option (List Char) :=
  let ds := (cs.take high).takeWhile isAsciiDigit
  if low ≤ ds.length then some (cs.drop ds.length) else none

def after (p : Char → Bool) : List Char → Option (List Char)
  | c :: rest => if p c then some rest else none
  | [] => none

def isDate (cs : List Char) : Bool :=
  (do
    let cs ← after (· == '-') (← afterDigits 4 4 cs)
    let cs ← after (· == '-') (← afterDigits 2 2 cs)
    afterDigits 2 2 cs) == some []

/-- What follows the blanks or the letter between a date and a time. -/
def afterTimeMark (cs : List Char) : Option (List Char) :=
  match cs with
  | [] => none
  | c :: rest =>
    if c = 'T' || c = 't' then some rest
    else if c = ' ' || c = '\t' then some (rest.dropWhile fun d => d = ' ' || d = '\t')
    else none

def isOffset (cs : List Char) : Bool :=
  cs.isEmpty || match cs.dropWhile fun c => c = ' ' || c = '\t' with
    | ['Z'] => true
    | sign :: rest => (sign = '+' || sign = '-') && match afterDigits 1 2 rest with
      | some [] => true
      | some (':' :: minutes) => afterDigits 2 2 minutes == some []
      | _ => false
    | [] => false

def isDateTime (cs : List Char) : Bool :=
  let rest : Option (List Char) := do
    let cs ← after (· == '-') (← afterDigits 4 4 cs)
    let cs ← after (· == '-') (← afterDigits 1 2 cs)
    let cs ← afterTimeMark (← afterDigits 1 2 cs)
    let cs ← after (· == ':') (← afterDigits 1 2 cs)
    let cs ← after (· == ':') (← afterDigits 2 2 cs)
    afterDigits 2 2 cs
  match rest with
  | some ('.' :: fraction) => isOffset (fraction.dropWhile isAsciiDigit)
  | some rest => isOffset rest
  | none => false

/-- Whether a plain text would be read as another kind of value. -/
def looksTyped (cs : List Char) : Bool :=
  reservedWords.contains (String.ofList cs) || isInteger cs || isFloat cs || isDate cs ||
    isDateTime cs

def isOrdinary (c : Char) : Bool :=
  0x20 ≤ c.toNat && c.toNat ≤ 0x7E

/-- Whether a text is at its end, or a blank or the end of a line comes next. -/
def meetsGap : List Char → Bool
  | [] => true
  | c :: _ => c = ' ' || c = '\n'

def leadingIndicators : List Char :=
  ['#', ',', '[', ']', '\x7b', '\x7d', '&', '*', '!', '|', '>', '\x27', '"', '%', '@', '\x60']

/-- Whether a text starts with an indicator: with one of a character, with one that a gap follows,
or with the mark of a document's start or end. -/
def startsIndicated : List Char → Bool
  | [] => false
  | c :: rest =>
    leadingIndicators.contains c || ((c = '?' || c = ':' || c = '-') && meetsGap rest) ||
      "---".toList.isPrefixOf (c :: rest) || "...".toList.isPrefixOf (c :: rest)

/-- Whether an indicator stands further within a text: a colon before a gap, or a hash behind
one. -/
def holdsIndicator : List Char → Bool
  | c :: d :: rest =>
    (d = ':' && meetsGap rest) || (d = '#' && meetsGap [c]) || holdsIndicator (d :: rest)
  | _ => false

def holdsPair (c d : Char) : List Char → Bool
  | a :: b :: rest => (a = c && b = d) || holdsPair c d (b :: rest)
  | _ => false

inductive Style where
  | plain
  | single
  | double
  deriving DecidableEq, Repr

def allowsPlain (cs : List Char) : Bool :=
  cs.all isOrdinary && cs.head? != some ' ' && cs.getLast? != some ' ' && !startsIndicated cs &&
    !holdsIndicator cs && !looksTyped cs

/-- Whether a text can be written between single quotes: blanks beside line ends would be lost. -/
def allowsSingle (cs : List Char) : Bool :=
  cs.all (fun c => isOrdinary c || c = '\n') && !holdsPair ' ' '\n' cs && !holdsPair '\n' ' ' cs

/-- The first way in which a text can be written. -/
def style (cs : List Char) : Style :=
  if allowsPlain cs then .plain else if allowsSingle cs then .single else .double

/-- What is written so far, latest character first, and the column behind it. -/
structure Written where
  chars : List Char
  column : Nat
  deriving DecidableEq, Repr

namespace Written

def put (w : Written) (cs : List Char) : Written :=
  ⟨cs.reverse ++ w.chars, w.column + cs.length⟩

def newLine (w : Written) (indent : Nat) : Written :=
  ⟨List.replicate indent ' ' ++ '\n' :: w.chars, indent⟩

end Written

/-- Lines are folded once they are longer than this. -/
def width : Nat := 80

def runKind (c : Char) : Nat :=
  if c = ' ' then 0 else if c = '\n' then 1 else 2

def runs (cs : List Char) : List (List Char) :=
  cs.splitBy fun a b => runKind a == runKind b

def putPlain (indent : Nat) (w : Written) (cs : List Char) : Written :=
  (runs cs).foldl (fun w run =>
    if run == [' '] && width < w.column then w.newLine indent else w.put run) w

def singleChar (c : Char) : List Char :=
  if c = '\x27' then [c, c] else [c]

/-- Writes the runs of a text between single quotes. Each line feed of a run ends a line, and one
more is written before them; blanks at either end of the text are not folded. -/
def putSingleRuns (indent : Nat) (isFirst : Bool) (w : Written) : List (List Char) → Written
  | [] => w
  | run :: rest =>
    let w :=
      if run.head? == some '\n' then (run.foldl (fun w _ => w.newLine 0) w).newLine indent
      else if run == [' '] && width < w.column && !isFirst && !rest.isEmpty then w.newLine indent
      else w.put (run.flatMap singleChar)
    putSingleRuns indent false w rest

def putSingle (indent : Nat) (w : Written) (cs : List Char) : Written :=
  (putSingleRuns indent true (w.put ['\x27']) (runs cs)).put ['\x27']

def escapeLetter? (c : Char) : Option Char :=
  [('\x00', '0'), ('\x07', 'a'), ('\x08', 'b'), ('\t', 't'), ('\n', 'n'), ('\x0b', 'v'),
    ('\x0c', 'f'), ('\r', 'r'), ('\x1b', 'e'), ('"', '"'), ('\\', '\\'), ('\x85', 'N'),
    ('\xa0', '_'), ('\u2028', 'L'), ('\u2029', 'P')].lookup c

def upperHex (digits n : Nat) : List Char :=
  (hexDigits digits n).map Char.toUpper

/-- The escape of a character that is not written as it is between double quotes. -/
def escape? (c : Char) : Option (List Char) :=
  if isOrdinary c && c != '"' && c != '\\' then none
  else some ('\\' :: match escapeLetter? c with
    | some letter => [letter]
    | none =>
      if c.toNat < 0x100 then 'x' :: upperHex 2 c.toNat
      else if c.toNat < 0x10000 then 'u' :: upperHex 4 c.toNat
      else 'U' :: upperHex 8 c.toNat)

/-- Folds a line between double quotes: a backslash ends it, and another one keeps a blank that the
next line starts with. -/
def foldDouble (indent : Nat) (w : Written) (next : Option Char) : Written :=
  let w := (w.put ['\\']).newLine indent
  if next == some ' ' then w.put ['\\'] else w

/-- Writes the characters between double quotes. Lines are folded before blanks and beside escapes,
but neither at the first nor at the last character. -/
def putDoubleChars (indent : Nat) (isFirst wasEscaped : Bool) (w : Written) : List Char → Written
  | [] => w
  | c :: rest =>
    let inner := !isFirst && !rest.isEmpty
    match escape? c with
    | some e =>
      let w := w.put e
      let w := if inner && width + 1 < w.column then foldDouble indent w rest.head? else w
      putDoubleChars indent false true w rest
    | none =>
      let folds := inner && (c = ' ' || wasEscaped) && width < w.column
      let w := if folds then foldDouble indent w (some c) else w
      putDoubleChars indent false false (w.put [c]) rest

def putDouble (indent : Nat) (w : Written) (cs : List Char) : Written :=
  (putDoubleChars indent true false (w.put ['"']) cs).put ['"']

def putText (indent : Nat) (w : Written) (cs : List Char) : Written :=
  match style cs with
  | .plain => putPlain indent w cs
  | .single => putSingle indent w cs
  | .double => putDouble indent w cs

/-- A text that starts at a column, and whose further lines start with `indent` blanks. -/
def scalar (indent column : Nat) (s : String) : List Char :=
  (putText indent ⟨[], column⟩ s.toList).chars.reverse

def numbers : FloatStyle :=
  ⟨true, ".inf", ".nan"⟩

end TradeCharts.Yaml
