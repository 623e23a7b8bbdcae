import TradeCharts.Proofs.Json.Reordered

/-!
Trades written as records and read again. A trade that is read loses how it was spelled: numbers given
as texts or truth values, and fields left out. Its record holds every field in one form, which is read
as it stands, whichever of its names each field has and in whatever order the fields are
(`Trade.ofJson_of_reordered`).
-/
namespace TradeCharts

open Checked

lemma readsBack_textOrInt : ReadsBack TextOrInt.ofJson TextOrInt.toJson := by
  refine readsBack_of_isScalar (fun a => ?_) fun a => ?_
  · cases a <;> trivial
  · cases a <;> rfl

lemma readsBack_formattedAmount : ReadsBack FormattedAmount.ofJson FormattedAmount.toJson := by
  refine readsBack_of_isScalar (fun a => ?_) fun a => ?_
  · cases a <;> trivial
  · cases a <;> rfl

lemma readsBack_optionalText : ReadsBack (nullable text) (Json.ofOption .text) := by
  refine readsBack_of_isScalar (fun a => ?_) fun a => ?_
  · cases a <;> trivial
  · cases a <;> rfl

lemma readsBack_vaultId : ReadsBack (nullable TextOrInt.ofJson) (Json.ofOption TextOrInt.toJson) := by
  refine readsBack_of_isScalar (fun a => ?_) fun a => ?_
  · obtain _ | a | a := a <;> trivial
  · obtain _ | a | a := a <;> rfl

/-- The fields of a record, when it is read, stand as they were written. -/
lemma holds_of_reordered {exported : FieldKey → Bool} {entries : List (FieldKey × Json)} {v : Json}
    (hsep : FieldKey.Separate (entries.map (·.1)))
    (h : (Json.object (FieldKey.spelled exported entries)).Reordered v) :
    ∃ gs, v = .object gs ∧ ∀ e ∈ entries, e.1.Holds gs e.2 := by
  obtain ⟨gs, rfl, hsame⟩ := h.of_object
  exact ⟨gs, rfl, FieldKey.holds_of_spelled hsep hsame⟩

namespace Token

def entries (t : Token) : List (FieldKey × Json) :=
  [(.single "address", .text t.address), (.single "symbol", .ofOption .text t.symbol),
    (.single "name", .ofOption .text t.name), (.single "decimals", .integer t.decimals)]

lemma toJson_eq (t : Token) : t.toJson = .object (FieldKey.spelled (fun _ => false) t.entries) :=
  rfl

lemma separate_entries (t : Token) : FieldKey.Separate (t.entries.map (·.1)) := by
  change FieldKey.Separate [.single "address", .single "symbol", .single "name", .single "decimals"]
  decide

lemma readsBack : ReadsBack ofJson toJson := by
  intro t v h
  rw [toJson_eq] at h
  obtain ⟨gs, rfl, hgs⟩ := holds_of_reordered t.separate_entries h
  simp only [entries, List.forall_mem_cons] at hgs
  obtain ⟨haddress, hsymbol, hname, hdecimals, -⟩ := hgs
  rw [ofJson, object, required_of_holds readsBack_text haddress,
    withDefault_of_holds readsBack_optionalText hsymbol,
    withDefault_of_holds readsBack_optionalText hname,
    withDefault_of_holds readsBack_integer hdecimals]
  rfl

end Token

namespace BalanceChange

def entries (b : BalanceChange) : List (FieldKey × Json) :=
  [(.single "token", b.token.toJson), (.single "amount", b.amount.toJson),
    (formattedAmountKey, b.formattedAmount.toJson),
    (vaultIdKey, .ofOption TextOrInt.toJson b.vaultId)]

lemma toJson_eq (exported : FieldKey → Bool) (b : BalanceChange) :
    b.toJson exported = .object (FieldKey.spelled exported b.entries) := by
  simp [toJson, FieldKey.spelled, entries]

lemma separate_entries (b : BalanceChange) : FieldKey.Separate (b.entries.map (·.1)) := by
  change FieldKey.Separate [.single "token", .single "amount", formattedAmountKey, vaultIdKey]
  decide

lemma readsBack (exported : FieldKey → Bool) : ReadsBack ofJson (toJson exported) := by
  intro b v h
  rw [toJson_eq] at h
  obtain ⟨gs, rfl, hgs⟩ := holds_of_reordered b.separate_entries h
  simp only [entries, List.forall_mem_cons] at hgs
  obtain ⟨htoken, hamount, hformatted, hvault, -⟩ := hgs
  rw [ofJson, object, required_of_holds Token.readsBack htoken,
    withDefault_of_holds readsBack_textOrInt hamount,
    required_of_holds readsBack_formattedAmount hformatted,
    withDefault_of_holds readsBack_vaultId hvault]
  rfl

end BalanceChange

namespace Trade

def entries (spelling : Spelling) (t : Trade) : List (FieldKey × Json) :=
  [(.single "id", t.id.toJson), (.single "timestamp", .integer t.timestamp),
    (inputKeys, t.input.toJson spelling.input), (outputKeys, t.output.toJson spelling.output),
    (orderHashKey, .ofOption .text t.orderHash)]

lemma toJson_eq (spelling : Spelling) (t : Trade) :
    t.toJson spelling = .object (FieldKey.spelled spelling.own (t.entries spelling)) := by
  simp [toJson, FieldKey.spelled, entries]

lemma separate_entries (spelling : Spelling) (t : Trade) :
    FieldKey.Separate ((t.entries spelling).map (·.1)) := by
  change FieldKey.Separate [.single "id", .single "timestamp", inputKeys, outputKeys, orderHashKey]
  decide

/-- A trade is read back from its record, whichever of its names each field has and in whatever order
the fields stand. -/
theorem ofJson_of_reordered {spelling : Spelling} {t : Trade} {v : Json}
    (h : (t.toJson spelling).Reordered v) : ofJson v = .valid t := by
  rw [toJson_eq] at h
  obtain ⟨gs, rfl, hgs⟩ := holds_of_reordered (t.separate_entries spelling) h
  simp only [entries, List.forall_mem_cons] at hgs
  obtain ⟨hid, htime, hinput, houtput, hhash, -⟩ := hgs
  rw [ofJson, object, withDefault_of_holds readsBack_textOrInt hid,
    required_of_holds readsBack_integer htime,
    required_of_holds (BalanceChange.readsBack spelling.input) hinput,
    required_of_holds (BalanceChange.readsBack spelling.output) houtput,
    withDefault_of_holds readsBack_optionalText hhash]
  rfl

/-- A record in loose form, with truth values and texts for numbers and without what has a default,
and the record of its trade, whose names are of both kinds and whose fields stand in reverse. -/
theorem ofJson_of_reordered_mixed :
    let token : Json := .object [("address", .text "0xA"), ("decimals", .text " 0_6.0")]
    let raw : Json := .object [("id", .boolean true), ("timestamp", .text "+17"),
      ("input_change", .object [("token", token), ("formatted_amount", .boolean true)]),
      ("outputVaultBalanceChange", .object [("token", token), ("formattedAmount", .text "n/a"),
        ("vault_id", .text "7")])]
    let paid : BalanceChange := ⟨⟨"0xA", none, none, 6⟩, .text "0", .number 1.0, none⟩
    let received : BalanceChange :=
      ⟨⟨"0xA", none, none, 6⟩, .text "0", .text "n/a", some (.text "7")⟩
    let t : Trade := ⟨.integer 1, 17, paid, received, none⟩
    let spelling : Spelling := ⟨fun k => k == inputKeys, fun _ => true, fun k => k == BalanceChange.vaultIdKey⟩
    let v : Json := .object [("order_hash", .null),
      ("output_change", t.output.toJson spelling.output),
      ("inputVaultBalanceChange", t.input.toJson spelling.input), ("timestamp", .integer 17),
      ("id", .integer 1)]
    ofJson raw = .valid t ∧ (t.toJson spelling).Reordered v ∧ ofJson v = .valid t := by
  intro token raw paid received t spelling v
  have hnodup : ["id", "timestamp", "inputVaultBalanceChange", "output_change", "order_hash"].Nodup :=
    by decide
  have hreversed : (t.toJson spelling).Reordered v := .fields (List.reverse_perm _).symm hnodup
  exact ⟨rfl, hreversed, ofJson_of_reordered hreversed⟩

end Trade

end TradeCharts
