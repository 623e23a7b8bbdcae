/-! JSON values. Whole numbers stay exact; a number with a fraction or an exponent is a double. -/
namespace TradeCharts

/-- A JSON value. The fields of an object stand in reverse order of writing, so that looking a name
up finds the last of several fields with that name. -/
inductive Json where
  | null
  | boolean (value : Bool)
  | integer (value : Int)
  | number (value : Float)
  | text (value : String)
  | list (items : List Json)
  | object (fields : List (String × Json))
  deriving Repr, Inhabited

namespace Json

def field? (name : String) : Json → Option Json
  | .object fields => fields.lookup name
  | _ => none

end Json

end TradeCharts
