import TradeCharts.Document.YamlScalar
/-! Documents as YAML in block style. Lists stand at the level of the field that holds them, and the
dash of an item takes the place of two blanks. -/
namespace TradeCharts.Document

def yamlStep : Nat := 2

mutual

/-- What follows the name of a field. The name starts behind `indent` blanks and ends, with its
colon, at a column. -/
def yamlValue (indent column : Nat) : Document → List Char
  | text s => ' ' :: Yaml.scalar (indent + yamlStep) (column + 1) s ++ ['\n']
  | integer n => ' ' :: (toString n).toList ++ ['\n']
  | number x => ' ' :: (Yaml.numbers.render x).toList ++ ['\n']
  | list [] => [' ', '[', ']', '\n']
  | list (d :: rest) => '\n' :: yamlItems indent (d :: rest)
  | record [] => [' ', '\x7b', '\x7d', '\n']
  | record (f :: rest) => '\n' :: yamlFields (indent + yamlStep) (f :: rest)

/-- The lines of a document behind a dash, which stands behind `indent` blanks. -/
def yamlItem (indent : Nat) : Document → List Char
  | list (d :: rest) =>
    ' ' :: (yamlItems (indent + yamlStep) (d :: rest)).drop (indent + yamlStep)
  | record (f :: rest) =>
    ' ' :: (yamlFields (indent + yamlStep) (f :: rest)).drop (indent + yamlStep)
  | text s => ' ' :: Yaml.scalar (indent + yamlStep) (indent + yamlStep) s ++ ['\n']
  | integer n => ' ' :: (toString n).toList ++ ['\n']
  | number x => ' ' :: (Yaml.numbers.render x).toList ++ ['\n']
  | list [] => [' ', '[', ']', '\n']
  | record [] => [' ', '\x7b', '\x7d', '\n']

def yamlItems (indent : Nat) : List Document → List Char
  | [] => []
  | d :: rest => blanks indent ++ '-' :: d.yamlItem indent ++ yamlItems indent rest

def yamlFields (indent : Nat) : List (String × Document) → List Char
  | [] => []
  | (name, d) :: rest =>
    let shown := Yaml.scalar (indent + yamlStep) indent name ++ [':']
    blanks indent ++ shown ++ d.yamlValue indent (indent + shown.length) ++ yamlFields indent rest

end

def yamlChars : Document → List Char
  | list (d :: rest) => yamlItems 0 (d :: rest)
  | record (f :: rest) => yamlFields 0 (f :: rest)
  | list [] => ['[', ']', '\n']
  | record [] => ['\x7b', '\x7d', '\n']
  | text s => Yaml.scalar yamlStep 0 s ++ ['\n']
  | integer n => (toString n).toList ++ ['\n']
  | number x => (Yaml.numbers.render x).toList ++ ['\n']

def toYamlText (d : Document) : Except Text.DigitLimitExceeded String :=
  if d.fits then .ok (String.ofList d.yamlChars) else .error .writing

end TradeCharts.Document
