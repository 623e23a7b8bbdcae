import TradeCharts.Document
import TradeCharts.Numeric.FloatText
import TradeCharts.Text.Quoted
/-! Documents as JSON: every item and field on a line of its own, two blanks for each level, and
ASCII characters only. -/
namespace TradeCharts.Document

def jsonNumbers : FloatStyle :=
  ⟨false, "Infinity", "NaN"⟩

def jsonUnit (n : Nat) : List Char :=
  '\\' :: 'u' :: Text.hexDigits 4 n

/-- A character within a JSON text. Those beyond sixteen bits are written as a pair of units. -/
def jsonChar (c : Char) : List Char :=
  let n := c.toNat
  if c = '"' || c = '\\' then ['\\', c]
  else if 0x20 ≤ n && n ≤ 0x7E then [c]
  else if c = '\n' then ['\\', 'n']
  else if c = '\r' then ['\\', 'r']
  else if c = '\t' then ['\\', 't']
  else if c = '\x08' then ['\\', 'b']
  else if c = '\x0c' then ['\\', 'f']
  else if n < 0x10000 then jsonUnit n
  else jsonUnit (0xD800 + (n - 0x10000) / 0x400) ++ jsonUnit (0xDC00 + (n - 0x10000) % 0x400)

def jsonString (s : String) : List Char :=
  '"' :: s.toList.flatMap jsonChar ++ ['"']

def jsonLine (indent : Nat) : List Char :=
  '\n' :: blanks indent

mutual

/-- A document whose first line starts anywhere and whose other lines start with `indent` blanks at
least. -/
def jsonChars (indent : Nat) : Document → List Char
  | text s => jsonString s
  | integer n => (toString n).toList
  | number x => (jsonNumbers.render x).toList
  | list [] => ['[', ']']
  | list (d :: rest) =>
    '[' :: jsonLine (indent + 2) ++ d.jsonChars (indent + 2) ++ jsonItems (indent + 2) rest ++
      jsonLine indent ++ [']']
  | record [] => ['\x7b', '\x7d']
  | record ((name, d) :: rest) =>
    '\x7b' :: jsonLine (indent + 2) ++ jsonString name ++ ':' :: ' ' :: d.jsonChars (indent + 2) ++
      jsonFields (indent + 2) rest ++ jsonLine indent ++ ['\x7d']

/-- The items behind the first one, each with the comma before it. -/
def jsonItems (indent : Nat) : List Document → List Char
  | [] => []
  | d :: rest => ',' :: jsonLine indent ++ d.jsonChars indent ++ jsonItems indent rest

def jsonFields (indent : Nat) : List (String × Document) → List Char
  | [] => []
  | (name, d) :: rest =>
    ',' :: jsonLine indent ++ jsonString name ++ ':' :: ' ' :: d.jsonChars indent ++
      jsonFields indent rest

end

def toJsonText (d : Document) : Except Text.DigitLimitExceeded String :=
  if d.fits then .ok (String.ofList (d.jsonChars 0 ++ ['\n'])) else .error .writing

end TradeCharts.Document
