import TradeCharts.Json.Value
import TradeCharts.Numeric.Decimal
/-!
The lexemes of a JSON text, each with the place where it starts. A lexeme that cannot be read ends
the list; whether its own fault or its mere presence is reported depends on what was expected there.

A text is a list of characters, and an escape may write half of a surrogate pair alone, which is no
character. Such a half is read as U+FFFD. This is a limit of the model: texts that differ only in
lone halves, addresses among them, are one text here.
-/
namespace TradeCharts.Json

open Text

inductive SyntaxFault where
  | expectingValue
  | expectingName
  | expectingColon
  | expectingComma
  | extraData
  | unterminatedText
  | controlCharacter
  | badEscape
  | badUnicodeEscape
  | byteOrderMark
  deriving DecidableEq, Repr

def SyntaxFault.message : SyntaxFault → String
  | expectingValue => "Expecting value"
  | expectingName => "Expecting property name enclosed in double quotes"
  | expectingColon => "Expecting ':' delimiter"
  | expectingComma => "Expecting ',' delimiter"
  | extraData => "Extra data"
  | unterminatedText => "Unterminated string starting at"
  | controlCharacter => "Invalid control character at"
  | badEscape => "Invalid \\escape"
  | badUnicodeEscape => "Invalid \\uXXXX escape"
  | byteOrderMark => "Unexpected UTF-8 BOM (decode using utf-8-sig)"

structure Fault where
  place : Nat
  kind : SyntaxFault
  deriving DecidableEq, Repr

inductive Lexeme where
  | mark (c : Char)
  | text (s : String)
  | scalar (v : Json)
  | badText (fault : Fault)
  | longNumber (cause : DigitLimitExceeded)
  | stray
  deriving Repr

def isSpace (c : Char) : Bool :=
  c = ' ' || c = '\t' || c = '\n' || c = '\r'

def isMark (c : Char) : Bool :=
  c = '[' || c = ']' || c = '\x7b' || c = '\x7d' || c = ',' || c = ':'

def hexValue? (c : Char) : Option Nat :=
  if '0' ≤ c && c ≤ '9' then some (c.toNat - 0x30)
  else if 'a' ≤ c && c ≤ 'f' then some (c.toNat - 0x57)
  else if 'A' ≤ c && c ≤ 'F' then some (c.toNat - 0x37)
  else none

def escapedChar? : Char → Option Char
  | '"' => some '"'
  | '\\' => some '\\'
  | '/' => some '/'
  | 'b' => some '\x08'
  | 'f' => some '\x0c'
  | 'n' => some '\n'
  | 'r' => some '\r'
  | 't' => some '\t'
  | _ => none

/-- Joins the surrogate pairs among the units of a text. A surrogate without its partner becomes
U+FFFD, whichever it is. -/
def joinSurrogates : List Nat → List Char
  | [] => []
  | [u] => [if 0xD800 ≤ u && u < 0xE000 then '\uFFFD' else Char.ofNat u]
  | u :: v :: rest =>
    if 0xD800 ≤ u && u < 0xDC00 && 0xDC00 ≤ v && v < 0xE000 then
      Char.ofNat (0x10000 + (u - 0xD800) * 0x400 + (v - 0xDC00)) :: joinSurrogates rest
    else (if 0xD800 ≤ u && u < 0xE000 then '\uFFFD' else Char.ofNat u) :: joinSurrogates (v :: rest)

/-- Where the scan of a text stands: among plain characters, behind a backslash, or within the four
digits of an escape, with the number of digits to come and the value so far. -/
inductive TextState where
  | plain
  | escape
  | hex (left value : Nat)
  deriving DecidableEq, Repr

structure ScannedText where
  units : List Nat
  stop : Nat
  rest : List Char
  deriving Repr

/-- Scans a text that started at `start`, from the character at `place` on. The units read so far
stand in `units`, latest first. -/
def scanText (start place : Nat) (units : List Nat) :
    TextState → List Char → Except Fault ScannedText
  | .plain, [] => .error ⟨start, .unterminatedText⟩
  | .escape, [] => .error ⟨start, .unterminatedText⟩
  | .hex left _, [] => .error ⟨place + left - 5, .badUnicodeEscape⟩
  | .plain, c :: rest =>
    if c = '"' then .ok ⟨units.reverse, place + 1, rest⟩
    else if c = '\\' then scanText start (place + 1) units .escape rest
    else if c.toNat < 0x20 then .error ⟨place, .controlCharacter⟩
    else scanText start (place + 1) (c.toNat :: units) .plain rest
  | .escape, c :: rest =>
    if c = 'u' then scanText start (place + 1) units (.hex 4 0) rest
    else match escapedChar? c with
      | some e => scanText start (place + 1) (e.toNat :: units) .plain rest
      | none => .error ⟨place - 1, .badEscape⟩
  | .hex left value, c :: rest =>
    match hexValue? c with
    | none => .error ⟨place + left - 5, .badUnicodeEscape⟩
    | some d =>
      if 1 < left then scanText start (place + 1) units (.hex (left - 1) (16 * value + d)) rest
      else if rest.isEmpty then .error ⟨place + left - 5, .badUnicodeEscape⟩
      else scanText start (place + 1) ((16 * value + d) :: units) .plain rest

structure NumberText where
  negative : Bool
  whole : List Char
  fraction : List Char
  exponent : List Char
  deriving DecidableEq, Repr

namespace NumberText

def length (t : NumberText) : Nat :=
  (if t.negative then 1 else 0) + t.whole.length + t.fraction.length + t.exponent.length

/-- A lone zero, or digits that do not start with one. -/
def takeWhole : List Char → List Char
  | [] => []
  | c :: rest => if c = '0' then ['0'] else (c :: rest).takeWhile isAsciiDigit

def takeFraction : List Char → List Char
  | [] => []
  | c :: rest =>
    let ds := rest.takeWhile isAsciiDigit
    if c = '.' && !ds.isEmpty then c :: ds else []

/-- An exponent mark with a sign, if any, and digits behind it. -/
def takeExponent : List Char → List Char
  | [] => []
  | c :: rest =>
    let sign := rest.takeWhile fun s => s = '+' || s = '-'
    let ds := (rest.drop sign.length).takeWhile isAsciiDigit
    if (c = 'e' || c = 'E') && sign.length ≤ 1 && !ds.isEmpty then c :: (sign ++ ds) else []

def take? (cs : List Char) : Option NumberText :=
  let negative := cs.head? == some '-'
  let cs := if negative then cs.tail else cs
  let whole := takeWhole cs
  if whole.isEmpty then none
  else
    let rest := cs.drop whole.length
    let fraction := takeFraction rest
    some ⟨negative, whole, fraction, takeExponent (rest.drop fraction.length)⟩

/-- The value of a number: a whole number, within the limit on digits if there is one, or the double
nearest to it. -/
def lexeme (digitsLimited : Bool) (t : NumberText) : Lexeme :=
  if t.fraction.isEmpty && t.exponent.isEmpty then
    if digitsLimited && digitLimit < t.whole.length then .longNumber (.reading t.whole.length)
    else .scalar (.integer (signed t.negative (digitsValue t.whole)))
  else match Decimal.read? (t.whole ++ t.fraction ++ t.exponent) with
    | some d => .scalar (.number (Binary64.withSign t.negative d.toFloat))
    | none => .stray

end NumberText

def words : List (List Char × Json) :=
  [("null".toList, .null), ("true".toList, .boolean true), ("false".toList, .boolean false),
    ("NaN".toList, .number (0.0 / 0.0)), ("Infinity".toList, .number (1.0 / 0.0)),
    ("-Infinity".toList, .number (-1.0 / 0.0))]

/-- The lexemes of a text whose first character is at `place`, put behind those in `done`, which
come latest first. Every lexeme takes a character at least, so the length of the text is enough
fuel. -/
def lexemesFrom (digitsLimited : Bool) :
    Nat → Nat → List Char → List (Nat × Lexeme) → List (Nat × Lexeme)
  | 0, _, _, done => done.reverse
  | _ + 1, _, [], done => done.reverse
  | fuel + 1, place, c :: rest, done =>
    if isSpace c then lexemesFrom digitsLimited fuel (place + 1) rest done
    else if isMark c then lexemesFrom digitsLimited fuel (place + 1) rest ((place, .mark c) :: done)
    else if c = '"' then
      match scanText place (place + 1) [] .plain rest with
      | .ok t =>
        lexemesFrom digitsLimited fuel t.stop t.rest
          ((place, .text (String.ofList (joinSurrogates t.units))) :: done)
      | .error f => ((place, .badText f) :: done).reverse
    else match words.find? (·.1.isPrefixOf (c :: rest)) with
      | some (w, v) =>
        lexemesFrom digitsLimited fuel (place + w.length) ((c :: rest).drop w.length)
          ((place, .scalar v) :: done)
      | none => match NumberText.take? (c :: rest) with
        | some t =>
          lexemesFrom digitsLimited fuel (place + t.length) ((c :: rest).drop t.length)
            ((place, t.lexeme digitsLimited) :: done)
        | none => ((place, .stray) :: done).reverse

def lexemes (digitsLimited : Bool) (cs : List Char) : List (Nat × Lexeme) :=
  lexemesFrom digitsLimited cs.length 0 cs []

end TradeCharts.Json
