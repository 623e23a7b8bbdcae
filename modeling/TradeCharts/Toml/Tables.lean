import TradeCharts.Toml.Value
/-!
The tables of a TOML document while it is read. A table may be declared once, by a header or by the
points in a key; lists and tables written in place are frozen and take no further fields.
-/
namespace TradeCharts.Toml

abbrev Path := List String

abbrev Fields := List (String × Value)

namespace Fields

def put (key : String) (v : Value) : Fields → Fields
  | [] => [(key, v)]
  | (k, w) :: rest => if k == key then (key, v) :: rest else (k, w) :: put key v rest

/-- Changes the table that a path leads to; tables on the path are made where they are missing, and
of a list the last item counts. None when something else stands on the path. -/
def change? (f : Fields → Option Fields) : Path → Fields → Option Fields
  | [], fields => f fields
  | key :: path, fields =>
    match fields.lookup key with
    | none => (change? f path []).map fun inner => put key (.table inner) fields
    | some (.table inner) => (change? f path inner).map fun inner => put key (.table inner) fields
    | some (.list items) => match items.getLast? with
      | some (.table inner) =>
        (change? f path inner).map fun inner =>
          put key (.list (items.dropLast ++ [.table inner])) fields
      | _ => none
    | some _ => none

def add? (key : String) (v : Value) (fields : Fields) : Option Fields :=
  if (fields.lookup key).isSome then none else some (fields ++ [(key, v)])

def extend? (key : String) (fields : Fields) : Option Fields :=
  match fields.lookup key with
  | none => some (fields ++ [(key, .list [.table []])])
  | some (.list items) => some (put key (.list (items ++ [.table []])) fields)
  | some _ => none

end Fields

/-- The tables read so far: the fields of the whole document, the path of the latest header, the
paths that are declared, those that the keys since that header declare once the next header comes,
and the paths frozen with all that is below them. -/
structure Tables where
  fields : Fields
  header : Path
  declared : List Path
  dotted : List Path
  frozen : List Path

namespace Tables

def empty : Tables :=
  ⟨[], [], [], [], []⟩

def isFrozen (t : Tables) (path : Path) : Bool :=
  t.frozen.any (·.isPrefixOf path)

/-- Declares the paths of the keys under the header that ends. -/
def closeHeader (t : Tables) : Tables :=
  { t with declared := t.dotted ++ t.declared, dotted := [] }

def openTable? (t : Tables) (path : Path) : Option Tables :=
  if t.declared.contains path || t.isFrozen path then none
  else (t.fields.change? some path).map fun fields =>
    { t with fields, header := path, declared := path :: t.declared }

/-- Opens a further table of a list by its header. What was declared below the list concerned the
table before. -/
def openItem? (t : Tables) (path : Path) : Option Tables :=
  if t.isFrozen path then none
  else (t.fields.change? (Fields.extend? (path.getLastD "")) path.dropLast).map fun fields =>
    { t with
      fields
      header := path
      declared := path :: t.declared.filter fun p => !path.isPrefixOf p
      frozen := t.frozen.filter fun p => !path.isPrefixOf p }

/-- The paths of the tables that the points of a key name: all beginnings of the key but the empty
one and the key itself, seen from the whole document. -/
def dottedPaths (t : Tables) (key : Path) : List Path :=
  (List.range key.length).tail.map fun n => t.header ++ key.take n

def set? (t : Tables) (key : Path) (v : Value) : Option Tables :=
  let dotted := t.dottedPaths key
  let path := t.header ++ key
  if dotted.any t.declared.contains || t.isFrozen path.dropLast then none
  else (t.fields.change? (Fields.add? (path.getLastD "") v) path.dropLast).map fun fields =>
    { t with
      fields
      dotted := dotted ++ t.dotted
      frozen := if v.isContainer then path :: t.frozen else t.frozen }

end Tables

end TradeCharts.Toml
