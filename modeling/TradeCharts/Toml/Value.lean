import TradeCharts.Json.Value
/-! TOML values. -/
namespace TradeCharts.Toml

/-- A TOML value. A moment, which is a date, a time or both, stays as it is written. -/
inductive Value where
  | text (value : String)
  | boolean (value : Bool)
  | integer (value : Int)
  | number (value : Float)
  | moment (written : String)
  | list (items : List Value)
  | table (fields : List (String × Value))
  deriving Repr

namespace Value

def isContainer : Value → Bool
  | list _ | table _ => true
  | _ => false

mutual

/-- A value as JSON. Moments have no counterpart there and become null. -/
def toJson : Value → Json
  | text s => .text s
  | boolean b => .boolean b
  | integer n => .integer n
  | number x => .number x
  | moment _ => .null
  | list items => .list (itemsToJson items)
  | table fields => .object (fieldsToJson fields)

def itemsToJson : List Value → List Json
  | [] => []
  | v :: rest => v.toJson :: itemsToJson rest

def fieldsToJson : List (String × Value) → List (String × Json)
  | [] => []
  | (key, v) :: rest => (key, v.toJson) :: fieldsToJson rest

end

end Value

end TradeCharts.Toml
