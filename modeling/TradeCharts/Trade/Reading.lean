import TradeCharts.Trade
import TradeCharts.Validation
/-! Reading trades out of JSON records. -/
namespace TradeCharts

/-- Identifiers and raw amounts: a text or a whole number stays as it is, and other values are read
as whole numbers. -/
def TextOrInt.ofJson : Json → Checked TextOrInt
  | .text s => .valid (.text s)
  | v => match integerOfJson v with
    | .ok n => .valid (.integer n)
    | .error c => .invalid ⟨["str"], .notText⟩ [⟨["int"], c⟩]

def FormattedAmount.ofJson : Json → Checked FormattedAmount
  | .text s => .valid (.text s)
  | v => match floatOfJson? v with
    | some x => .valid (.number x)
    | none => .invalid ⟨["str"], .notText⟩ [⟨["float"], .notNumber⟩]

namespace Token

def ofJson : Json → Checked Token :=
  Checked.object "Token" fun fields =>
    Token.mk
      <$> Checked.required fields (.single "address") Checked.text
      <*> Checked.withDefault fields (.single "symbol") none (Checked.nullable Checked.text)
      <*> Checked.withDefault fields (.single "name") none (Checked.nullable Checked.text)
      <*> Checked.withDefault fields (.single "decimals") 18 Checked.integer

end Token

namespace BalanceChange

def formattedAmountKey : FieldKey := ⟨"formattedAmount", "formatted_amount"⟩

def vaultIdKey : FieldKey := ⟨"vaultId", "vault_id"⟩

def ofJson : Json → Checked BalanceChange :=
  Checked.object "BalanceChange" fun fields =>
    BalanceChange.mk
      <$> Checked.required fields (.single "token") Token.ofJson
      <*> Checked.withDefault fields (.single "amount") (.text "0") TextOrInt.ofJson
      <*> Checked.required fields formattedAmountKey FormattedAmount.ofJson
      <*> Checked.withDefault fields vaultIdKey none (Checked.nullable TextOrInt.ofJson)

end BalanceChange

namespace Trade

def inputKeys : FieldKey := ⟨"inputVaultBalanceChange", "input_change"⟩

def outputKeys : FieldKey := ⟨"outputVaultBalanceChange", "output_change"⟩

def orderHashKey : FieldKey := ⟨"orderHash", "order_hash"⟩

def ofJson : Json → Checked Trade :=
  Checked.object "Trade" fun fields =>
    Trade.mk
      <$> Checked.withDefault fields (.single "id") (.text "") TextOrInt.ofJson
      <*> Checked.required fields (.single "timestamp") Checked.integer
      <*> Checked.required fields inputKeys BalanceChange.ofJson
      <*> Checked.required fields outputKeys BalanceChange.ofJson
      <*> Checked.withDefault fields orderHashKey none (Checked.nullable Checked.text)

/-- Reads a list of trades up to the first faulty record, given with its place. -/
def listOfJson (records : List Json) : Except (Nat × Issue × List Issue) (List Trade) :=
  go 0 records
where
  go (index : Nat) : List Json → Except (Nat × Issue × List Issue) (List Trade)
    | [] => .ok []
    | r :: rest => match ofJson r with
      | .valid t => (go (index + 1) rest).map (t :: ·)
      | .invalid i is => .error (index, i, is)

end Trade

end TradeCharts
