import TradeCharts.Json.Lexeme
import TradeCharts.Toml.Value
import TradeCharts.Calendar
/-! The parts of a TOML text that hold no others: comments, texts, keys, numbers and moments. Each
reader takes what it reads off the head of a list of characters and returns the rest. -/
namespace TradeCharts.Toml

open Text

inductive ReadError where
  | malformed
  | tooDeep
  | longNumber (cause : DigitLimitExceeded)
  deriving DecidableEq, Repr

def isBlank (c : Char) : Bool :=
  c = ' ' || c = '\t'

def isGap (c : Char) : Bool :=
  isBlank c || c = '\n'

def isControl (c : Char) : Bool :=
  (c.toNat < 0x20 && c != '\t') || c.toNat = 0x7F

/-- Characters that a text in the given number of lines may not hold. -/
def isForbidden (multiline : Bool) (c : Char) : Bool :=
  isControl c && !(multiline && c = '\n')

def skipComment : List Char → Option (List Char)
  | [] => some []
  | c :: rest =>
    if c != '#' then some (c :: rest)
    else if (rest.takeWhile (· != '\n')).any isControl then none
    else some (rest.dropWhile (· != '\n'))

/-- Skips blanks, line feeds and comments. Every round skips a comment, so the number of characters
is enough fuel. -/
def skipGaps : Nat → List Char → Option (List Char)
  | 0, cs => some cs
  | fuel + 1, cs =>
    match cs.dropWhile isGap with
    | '#' :: rest => (skipComment ('#' :: rest)).bind (skipGaps fuel)
    | rest => some rest

/-- Where the scan of a text with escapes stands: among plain characters, behind a backslash, within
the digits of an escape, or at a line that a backslash joins with the next, before or after its
end. -/
inductive TextState where
  | plain
  | escape
  | hex (left value : Nat)
  | beforeBreak
  | afterBreak
  deriving DecidableEq, Repr

def escapedChar? : Char → Option Char
  | 'b' => some '\x08'
  | 't' => some '\t'
  | 'n' => some '\n'
  | 'f' => some '\x0c'
  | 'r' => some '\r'
  | '"' => some '"'
  | '\\' => some '\\'
  | _ => none

/-- The state behind a backslash and a letter, and the character that these write. -/
def escapeStep (multiline : Bool) (c : Char) : Option (TextState × List Char) :=
  if c = 'u' then some (.hex 4 0, [])
  else if c = 'U' then some (.hex 8 0, [])
  else if multiline && c = '\n' then some (.afterBreak, [])
  else if multiline && isBlank c then some (.beforeBreak, [])
  else (escapedChar? c).map fun e => (.plain, [e])

/-- Scans a text with escapes up to its closing quotes. The characters read stand in `done`, latest
first. -/
def scanText (multiline : Bool) (done : List Char) :
    TextState → List Char → Option (List Char × List Char)
  | _, [] => none
  | .escape, c :: rest =>
    match escapeStep multiline c with
    | some (s, new) => scanText multiline (new ++ done) s rest
    | none => none
  | .hex left value, c :: rest =>
    match Json.hexValue? c with
    | none => none
    | some d =>
      if 1 < left then scanText multiline done (.hex (left - 1) (16 * value + d)) rest
      else if (16 * value + d).isValidChar then
        scanText multiline (Char.ofNat (16 * value + d) :: done) .plain rest
      else none
  | .beforeBreak, c :: rest =>
    if c = '\n' then scanText multiline done .afterBreak rest
    else if isBlank c then scanText multiline done .beforeBreak rest
    else none
  | s, c :: rest =>
    if s == .afterBreak && isGap c then scanText multiline done .afterBreak rest
    else if c = '"' then
      if !multiline then some (done.reverse, rest)
      else match rest with
        | '"' :: '"' :: rest => some (done.reverse, rest)
        | _ => scanText multiline ('"' :: done) .plain rest
    else if c = '\\' then scanText multiline done .escape rest
    else if isForbidden multiline c then none
    else scanText multiline (c :: done) .plain rest

def takeLiteral (multiline : Bool) : List Char → Option (List Char × List Char)
  | [] => none
  | c :: rest =>
    if c = '\x27' && !multiline then some ([], rest)
    else if c = '\x27' && "''".toList.isPrefixOf rest then some ([], rest.drop 2)
    else if isForbidden multiline c then none
    else (takeLiteral multiline rest).map fun (cs, rest) => (c :: cs, rest)

/-- Up to two quotes before the three that close a text belong to the text. They are those found
behind the first three. -/
def takeExtraQuotes (quote : Char) (body : List Char) (rest : List Char) : List Char × List Char :=
  let extra := (rest.take 2).takeWhile (· == quote)
  (body ++ extra, rest.drop extra.length)

def dropFirstBreak : List Char → List Char
  | '\n' :: rest => rest
  | cs => cs

def takeLineText : List Char → Option (List Char × List Char)
  | '"' :: rest => scanText false [] .plain rest
  | '\x27' :: rest => takeLiteral false rest
  | _ => none

def takeText (cs : List Char) : Option (List Char × List Char) :=
  if "\"\"\"".toList.isPrefixOf cs then
    (scanText true [] .plain (dropFirstBreak (cs.drop 3))).map fun (body, rest) =>
      takeExtraQuotes '"' body rest
  else if "'''".toList.isPrefixOf cs then
    (takeLiteral true (dropFirstBreak (cs.drop 3))).map fun (body, rest) =>
      takeExtraQuotes '\x27' body rest
  else takeLineText cs

def isBareKey (c : Char) : Bool :=
  c.isAlphanum || c = '-' || c = '_'

def takeKeyPart (cs : List Char) : Option (String × List Char) :=
  let bare := cs.takeWhile isBareKey
  let part := if bare.isEmpty then takeLineText cs else some (bare, cs.drop bare.length)
  part.map fun (name, rest) => (String.ofList name, rest.dropWhile isBlank)

/-- Takes the parts of a key, with points between them, and the blanks behind it. Every part has a
point before it or a character at least, so the number of characters is enough fuel. -/
def takeKey : Nat → List Char → Option (List String × List Char)
  | 0, _ => none
  | fuel + 1, cs =>
    match takeKeyPart cs with
    | some (name, '.' :: rest) =>
      (takeKey fuel (rest.dropWhile isBlank)).map fun (names, rest) => (name :: names, rest)
    | some (name, rest) => some ([name], rest)
    | none => none

/-- Takes digits of a class with single underscores between them, and leaves these out. The caller
has seen that a digit comes first. -/
def takeGroups (isDigit : Char → Bool) : List Char → List Char × List Char
  | [] => ([], [])
  | c :: rest =>
    if isDigit c then
      let (ds, rest) := takeGroups isDigit rest
      (c :: ds, rest)
    else if c = '_' && rest.head?.any isDigit then takeGroups isDigit rest
    else ([], c :: rest)

def takeDigits? (isDigit : Char → Bool) (cs : List Char) : Option (List Char × List Char) :=
  if cs.head?.any isDigit then some (takeGroups isDigit cs) else none

def valueInBase (base : Nat) (ds : List Char) : Nat :=
  ds.foldl (fun n c => base * n + (Json.hexValue? c).getD 0) 0

def base? : Char → Option Nat
  | 'x' => some 16
  | 'b' => some 2
  | 'o' => some 8
  | _ => none

def takeBased : List Char → Option (Value × List Char)
  | '0' :: c :: rest =>
    match base? c with
    | none => none
    | some base =>
      (takeDigits? (fun c => (Json.hexValue? c).any (· < base)) rest).map fun (ds, rest) =>
        (.integer (valueInBase base ds), rest)
  | _ => none

def takeWhole : List Char → Option (List Char × List Char)
  | '0' :: rest => some (['0'], rest)
  | cs => takeDigits? isAsciiDigit cs

def takeFraction : List Char → List Char × List Char
  | '.' :: rest => match takeDigits? isAsciiDigit rest with
    | some (ds, rest) => ('.' :: ds, rest)
    | none => ([], '.' :: rest)
  | cs => ([], cs)

def takeExponent : List Char → List Char × List Char
  | [] => ([], [])
  | c :: rest =>
    let sign := (rest.take 1).takeWhile fun s => s = '+' || s = '-'
    match takeDigits? isAsciiDigit (rest.drop sign.length) with
    | some (ds, after) =>
      if c = 'e' || c = 'E' then (c :: (sign ++ ds), after) else ([], c :: rest)
    | none => ([], c :: rest)

/-- Takes a decimal number: a double when it has a fraction or an exponent, a whole number within
the digit limit otherwise. -/
def takeDecimal (cs : List Char) : Except ReadError (Option (Value × List Char)) :=
  let (negative, body) := splitSign cs
  match takeWhole body with
  | none => .ok none
  | some (whole, rest) =>
    let (fraction, rest) := takeFraction rest
    let (exponent, rest) := takeExponent rest
    if fraction.isEmpty && exponent.isEmpty then
      match readDigits whole with
      | .ok n => .ok (some (.integer (signed negative n), rest))
      | .error cause => .error (.longNumber cause)
    else .ok ((Decimal.read? (whole ++ fraction ++ exponent)).map fun d =>
      (.number (Binary64.withSign negative d.toFloat), rest))

def takeSpecial (cs : List Char) : Option (Value × List Char) :=
  let (negative, body) := splitSign cs
  if "inf".toList.isPrefixOf body then
    some (.number (Binary64.withSign negative (1.0 / 0.0)), body.drop 3)
  else if "nan".toList.isPrefixOf body then some (.number (0.0 / 0.0), body.drop 3)
  else none

def takeFixed? (count : Nat) (cs : List Char) : Option (Nat × List Char) :=
  let ds := cs.take count
  if ds.length = count && ds.all isAsciiDigit then some (digitsValue ds, cs.drop count) else none

def takeTwo? (low high : Nat) (cs : List Char) : Option (Nat × List Char) :=
  (takeFixed? 2 cs).filter fun (n, _) => low ≤ n && n ≤ high

def takeChar? (c : Char) : List Char → Option (List Char)
  | d :: rest => if d = c then some rest else none
  | [] => none

def takeTime (cs : List Char) : Option (List Char) := do
  let (_, cs) ← takeTwo? 0 23 cs
  let (_, cs) ← takeTwo? 0 59 (← takeChar? ':' cs)
  let (_, cs) ← takeTwo? 0 59 (← takeChar? ':' cs)
  match cs with
  | '.' :: rest =>
    let ds := rest.takeWhile isAsciiDigit
    return if ds.isEmpty then cs else rest.drop ds.length
  | _ => return cs

def takeOffset (cs : List Char) : List Char :=
  match cs with
  | [] => []
  | c :: rest =>
    if c = 'Z' || c = 'z' then rest
    else if c = '+' || c = '-' then
      (do
        let (_, rest) ← takeTwo? 0 23 rest
        let (_, rest) ← takeTwo? 0 59 (← takeChar? ':' rest)
        return rest : Option (List Char)).getD cs
    else cs

def takeDate (cs : List Char) : Option (Calendar.Date × List Char) := do
  let (year, cs) ← takeFixed? 4 cs
  let (month, cs) ← takeTwo? 1 12 (← takeChar? '-' cs)
  let (day, cs) ← takeTwo? 1 31 (← takeChar? '-' cs)
  return (⟨year, month, day⟩, cs)

def takeDateTime (cs : List Char) : Option (Calendar.Date × List Char) :=
  (takeDate cs).map fun (date, rest) =>
    match rest with
    | [] => (date, [])
    | c :: after =>
      if c = 'T' || c = 't' || c = ' ' then
        match takeTime after with
        | some rest => (date, takeOffset rest)
        | none => (date, rest)
      else (date, rest)

/-- What was taken off a text to leave the rest. -/
def taken (cs rest : List Char) : String :=
  String.ofList (cs.take (cs.length - rest.length))

/-- Takes a value without parts that is no text. A date has to be one of the calendar. -/
def takeScalar (cs : List Char) : Except ReadError (Value × List Char) :=
  if "true".toList.isPrefixOf cs then .ok (.boolean true, cs.drop 4)
  else if "false".toList.isPrefixOf cs then .ok (.boolean false, cs.drop 5)
  else match takeDateTime cs with
    | some (date, rest) =>
      if date.isValid && Calendar.inRange date.year then .ok (.moment (taken cs rest), rest)
      else .error .malformed
    | none => match takeTime cs with
      | some rest => .ok (.moment (taken cs rest), rest)
      | none => match takeBased cs with
        | some result => .ok result
        | none => match takeDecimal cs with
          | .error e => .error e
          | .ok (some result) => .ok result
          | .ok none => match takeSpecial cs with
            | some result => .ok result
            | none => .error .malformed

end TradeCharts.Toml
