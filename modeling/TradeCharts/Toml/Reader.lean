import TradeCharts.Toml.Scalar
import TradeCharts.Toml.Tables
/-! Reading TOML documents line by line. -/
namespace TradeCharts.Toml

def orMalformed {α : Type} : Option α → Except ReadError α
  | some a => .ok a
  | none => .error .malformed

/-- How much depth a list uses up. -/
def listDepth : Nat := 2

def tableDepth : Nat := 3

mutual

/-- Takes a value. Each call within a value takes a character at least every second time, so twice
the number of characters is enough fuel; `depth` is what is left of the limit on nesting. -/
def takeValue : Nat → Nat → List Char → Except ReadError (Value × List Char)
  | 0, _, _ => .error .malformed
  | fuel + 1, depth, cs =>
    match cs with
    | '[' :: rest =>
      if depth < listDepth then .error .tooDeep
      else takeItems fuel (depth - listDepth) [] rest
    | '\x7b' :: rest =>
      if depth < tableDepth then .error .tooDeep
      else match rest.dropWhile isBlank with
        | '\x7d' :: rest => .ok (.table [], rest)
        | rest => takeFields fuel (depth - tableDepth) .empty rest
    | '"' :: _ | '\x27' :: _ =>
      match takeText cs with
      | some (body, rest) => .ok (.text (String.ofList body), rest)
      | none => .error .malformed
    | cs => takeScalar cs

/-- Takes the items of a list up to its closing bracket. Those read stand in `items`, latest
first. -/
def takeItems : Nat → Nat → List Value → List Char → Except ReadError (Value × List Char)
  | 0, _, _, _ => .error .malformed
  | fuel + 1, depth, items, cs =>
    match skipGaps cs.length cs with
    | none => .error .malformed
    | some (']' :: rest) => .ok (.list items.reverse, rest)
    | some cs => match takeValue fuel depth cs with
      | .error e => .error e
      | .ok (v, rest) => match skipGaps rest.length rest with
        | some (']' :: rest) => .ok (.list (v :: items).reverse, rest)
        | some (',' :: rest) => takeItems fuel depth (v :: items) rest
        | _ => .error .malformed

def takeFields : Nat → Nat → Tables → List Char → Except ReadError (Value × List Char)
  | 0, _, _, _ => .error .malformed
  | fuel + 1, depth, tables, cs =>
    match takeKey cs.length cs with
    | some (key, '=' :: rest) => match takeValue fuel depth (rest.dropWhile isBlank) with
      | .error e => .error e
      | .ok (v, rest) => match tables.set? key v, rest.dropWhile isBlank with
        | some tables, '\x7d' :: rest => .ok (.table tables.fields, rest)
        | some tables, ',' :: rest => takeFields fuel depth tables (rest.dropWhile isBlank)
        | _, _ => .error .malformed
    | _ => .error .malformed

end

def readField (limit : Nat) (tables : Tables) (cs : List Char) :
    Except ReadError (Tables × List Char) :=
  match takeKey cs.length cs with
  | some (key, '=' :: rest) => do
    let (v, rest) ← takeValue (2 * rest.length + 2) limit (rest.dropWhile isBlank)
    let tables ← orMalformed (tables.set? key v)
    return (tables, rest)
  | _ => .error .malformed

def readHeader (tables : Tables) (cs : List Char) : Except ReadError (Tables × List Char) :=
  let isItem := cs.head? == some '['
  let cs := (if isItem then cs.tail else cs).dropWhile isBlank
  match takeKey cs.length cs, isItem with
  | some (key, ']' :: rest), false => do
    return (← orMalformed (tables.closeHeader.openTable? key), rest)
  | some (key, ']' :: ']' :: rest), true => do
    return (← orMalformed (tables.closeHeader.openItem? key), rest)
  | _, _ => .error .malformed

def readStatement (limit : Nat) (tables : Tables) (cs : List Char) :
    Except ReadError (Tables × List Char) :=
  match cs with
  | [] => .ok (tables, [])
  | '\n' :: _ | '#' :: _ => .ok (tables, cs)
  | '[' :: rest => readHeader tables rest
  | cs => readField limit tables cs

def readLines (limit : Nat) : Nat → Tables → List Char → Except ReadError Fields
  | 0, _, _ => .error .malformed
  | fuel + 1, tables, cs => do
    let (tables, rest) ← readStatement limit tables (cs.dropWhile isBlank)
    match skipComment (rest.dropWhile isBlank) with
    | some [] => return tables.fields
    | some ('\n' :: rest) => readLines limit fuel tables rest
    | _ => .error .malformed

def joinLineEnds : List Char → List Char
  | '\r' :: '\n' :: rest => '\n' :: joinLineEnds rest
  | c :: rest => c :: joinLineEnds rest
  | [] => []

def read (limit : Nat) (cs : List Char) : Except ReadError Fields :=
  let cs := joinLineEnds cs
  readLines limit (cs.length + 1) .empty cs

end TradeCharts.Toml
