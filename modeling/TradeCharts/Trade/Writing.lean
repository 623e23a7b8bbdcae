import TradeCharts.Trade.Reading
/-! Trades as JSON records. Each field with two names is written under the one that `exported`
chooses for it. -/
namespace TradeCharts

def FieldKey.name (exported : FieldKey → Bool) (k : FieldKey) : String :=
  if exported k then k.exported else k.plain

def TextOrInt.toJson : TextOrInt → Json
  | .text s => .text s
  | .integer n => .integer n

def FormattedAmount.toJson : FormattedAmount → Json
  | .text s => .text s
  | .number x => .number x

def Json.ofOption {α : Type} (write : α → Json) : Option α → Json
  | some a => write a
  | none => .null

def Token.toJson (t : Token) : Json :=
  .object [("address", .text t.address), ("symbol", .ofOption .text t.symbol),
    ("name", .ofOption .text t.name), ("decimals", .integer t.decimals)]

def BalanceChange.toJson (exported : FieldKey → Bool) (b : BalanceChange) : Json :=
  .object [("token", b.token.toJson), ("amount", b.amount.toJson),
    (formattedAmountKey.name exported, b.formattedAmount.toJson),
    (vaultIdKey.name exported, .ofOption TextOrInt.toJson b.vaultId)]

/-- Which fields of a trade are written under their exported names: its own fields, and those of
either side. -/
structure Spelling where
  own : FieldKey → Bool
  input : FieldKey → Bool
  output : FieldKey → Bool

def Spelling.plain : Spelling :=
  ⟨fun _ => false, fun _ => false, fun _ => false⟩

def Trade.toJson (spelling : Spelling) (t : Trade) : Json :=
  .object [("id", t.id.toJson), ("timestamp", .integer t.timestamp),
    (inputKeys.name spelling.own, t.input.toJson spelling.input),
    (outputKeys.name spelling.own, t.output.toJson spelling.output),
    (orderHashKey.name spelling.own, .ofOption .text t.orderHash)]

end TradeCharts
