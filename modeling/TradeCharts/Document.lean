import TradeCharts.Text.Numeral
/-! Documents: what a command shows, before a format gives it a text. -/
namespace TradeCharts

inductive Document where
  | text (value : String)
  | integer (value : Int)
  | number (value : Float)
  | list (items : List Document)
  | record (fields : List (String × Document))
  deriving Repr

namespace Document

mutual

/-- Whether all whole numbers of a document are within the digit limit. -/
def fits : Document → Bool
  | integer n => Text.isWritable n
  | list items => itemsFit items
  | record fields => fieldsFit fields
  | _ => true

def itemsFit : List Document → Bool
  | [] => true
  | d :: rest => d.fits && itemsFit rest

def fieldsFit : List (String × Document) → Bool
  | [] => true
  | (_, d) :: rest => d.fits && fieldsFit rest

end

def blanks (n : Nat) : List Char :=
  List.replicate n ' '

end Document

end TradeCharts
