/-! Paths with slashes between names. -/
namespace TradeCharts.Path

/-- The names between the slashes of a text, empty ones included. -/
def splitNames : List Char → List (List Char)
  | [] => [[]]
  | c :: rest =>
    if c = '/' then [] :: splitNames rest
    else match splitNames rest with
      | name :: names => (c :: name) :: names
      | [] => [[c]]

def names (path : String) : List String :=
  (splitNames path.toList).map String.ofList

/-- The names that lead anywhere: all but empty ones and `.`. -/
def steps (path : String) : List String :=
  (names path).filter fun name => name != "" && name != "."

/-- The slashes at the head of a path that count: none, one, or exactly two. -/
def root (path : String) : String :=
  match (path.toList.takeWhile (· == '/')).length with
  | 0 => ""
  | 2 => "//"
  | _ => "/"

/-- A path without what leads nowhere; `.` when nothing is left. -/
def normalize (path : String) : String :=
  let text := root path ++ "/".intercalate (steps path)
  if text == "" then "." else text

def lastName (path : String) : String :=
  (steps path).getLastD ""

end TradeCharts.Path
