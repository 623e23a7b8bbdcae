import TradeCharts.Proofs.Chart.Zoom
import TradeCharts.Proofs.History.Specification

/-!
Trades that stand alone at their moments. Nothing is merged there, so a price and a point of a
history are the quotient of two amounts as they are written. An order that sells the base token for
the quote token has one series, whether it is drawn as a chart or as a history (`prices_eq_points`),
although a chart looks at zeros first and at quotients last, and a history looks at both before it
groups.
-/
namespace TradeCharts

/-- A list without two trades of one moment. -/
def AllLone (trades : List Trade) : Prop :=
  trades.Pairwise fun t u => t.timestamp ≠ u.timestamp

instance (trades : List Trade) : Decidable (AllLone trades) :=
  inferInstanceAs (Decidable (trades.Pairwise fun t u => t.timestamp ≠ u.timestamp))

/-- The trades of an order that takes in the quote token and gives out the base token, one at a time
and all of them within the window. -/
structure View.IsOrder (v : View) (trades : List Trade) : Prop where
  lone : AllLone trades
  shown : ∀ t ∈ trades, t.timestamp ∈ v.span
  input : ∀ t ∈ trades, t.inputKey = Text.lower v.quote
  output : ∀ t ∈ trades, t.outputKey = Text.lower v.base

variable {v : View} {palette : Palette} {theme : String} {trades : List Trade} {t : Trade}

lemma AllLone.filter (h : AllLone trades) (p : Trade → Bool) : AllLone (trades.filter p) :=
  List.Pairwise.filter p h

lemma AllLone.filter_time_eq (h : AllLone trades) (ht : t ∈ trades) :
    trades.filter (·.timestamp = t.timestamp) = [t] := by
  induction trades with
  | nil => exact absurd ht List.not_mem_nil
  | cons u rest ih =>
    obtain ⟨hu, hrest⟩ := List.pairwise_cons.1 h
    rcases List.mem_cons.1 ht with rfl | ht
    · have hnil : rest.filter (·.timestamp = t.timestamp) = [] := by
        refine List.filter_eq_nil_iff.2 fun w hw => ?_
        simpa using (hu w hw).symm
      rw [List.filter_cons_of_pos (by simp), hnil]
    · have hne : u.timestamp ≠ t.timestamp := hu t ht
      rw [List.filter_cons_of_neg (by simpa using hne), ih hrest ht]

/-- The price of a lone trade is the quotient of its amounts. -/
lemma AllLone.mem_prices_iff (h : AllLone trades) {p : PricePoint} :
    p ∈ (v.chart palette trades).prices ↔ ∃ t ∈ v.usable trades, t.timestamp = p.time ∧
      (t.quoteAmount v.base / t.baseAmount v.base).isFinite ∧
      p.value = t.quoteAmount v.base / t.baseAmount v.base := by
  have hbase {t : Trade} (ht : t ∈ v.usable trades) :
      v.baseAt trades t.timestamp = t.baseAmount v.base := by
    rw [View.baseAt, View.usable, (h.filter _).filter_time_eq ht]
    exact (t.isMagnitude_baseAmount v.base).zero_add
  have hquote {t : Trade} (ht : t ∈ v.usable trades) :
      v.quoteAt trades t.timestamp = t.quoteAmount v.base := by
    rw [View.quoteAt, View.usable, (h.filter _).filter_time_eq ht]
    exact (t.isMagnitude_quoteAmount v.base).zero_add
  rw [View.mem_prices_iff_traded]
  constructor
  · rintro ⟨⟨t, ht, htime⟩, hfinite, hvalue⟩
    rw [← htime, hbase ht, hquote ht] at hfinite hvalue
    exact ⟨t, ht, htime, hfinite, hvalue⟩
  · rintro ⟨t, ht, htime, hfinite, hvalue⟩
    rw [← htime, hbase ht, hquote ht]
    exact ⟨⟨t, ht, rfl⟩, hfinite, hvalue⟩

/-- The point of a lone trade is its ratio. -/
lemma AllLone.mem_points_iff (h : AllLone trades) {p : ColoredPoint} :
    p ∈ History.points theme trades ↔ ∃ t ∈ History.usable trades, t.timestamp = p.time ∧
      p.value = t.ratio ∧ p.color = some (historyColor theme) := by
  have hvalue {t : Trade} (ht : t ∈ History.usable trades) :
      History.valueAt trades t.timestamp = t.ratio := by
    rw [History.valueAt, History.usable, (h.filter _).filter_time_eq ht]
    rfl
  rw [History.mem_points_iff]
  constructor
  · rintro ⟨⟨t, ht, htime⟩, -, hv, hc⟩
    rw [← htime, hvalue ht] at hv
    exact ⟨t, ht, htime, hv, hc⟩
  · rintro ⟨t, ht, htime, hv, hc⟩
    have hat : History.valueAt trades p.time = t.ratio := by rw [← htime, hvalue ht]
    have hfinite : (History.valueAt trades p.time).isFinite := by
      rw [hat]
      exact (History.mem_usable.1 ht).2.finite
    exact ⟨⟨t, ht, htime⟩, hfinite, hv.trans hat.symm, hc⟩

namespace View.IsOrder

section Amounts

variable (h : v.IsOrder trades) (hkeys : Text.lower v.base ≠ Text.lower v.quote) (ht : t ∈ trades)
include h hkeys ht

lemma inputKey_ne : t.inputKey ≠ Text.lower v.base := by
  rw [h.input t ht]
  exact hkeys.symm

lemma baseAmount_eq : t.baseAmount v.base = t.outputMagnitude := by
  rw [Trade.baseAmount, if_neg (h.inputKey_ne hkeys ht)]
  rfl

lemma quoteAmount_eq : t.quoteAmount v.base = t.inputMagnitude := by
  rw [Trade.quoteAmount, if_neg (h.inputKey_ne hkeys ht)]
  rfl

/-- A chart shows a trade of the order when a history does. -/
lemma usable_iff : v.Usable t ∧ t.ratio.isFinite ↔ History.Usable t := by
  have hbase := h.baseAmount_eq hkeys ht
  constructor
  · rintro ⟨husable, hfinite⟩
    have hnonzero := husable.base
    rw [hbase] at hnonzero
    exact ⟨husable.input, husable.output, hnonzero, hfinite⟩
  · intro husable
    have hspan := h.shown t ht
    have hnonzero : (t.baseAmount v.base == 0.0) = false := by
      rw [hbase]
      exact husable.nonzero
    exact ⟨⟨hspan.1, hspan.2, .inr ⟨h.input t ht, h.output t ht⟩, husable.input, husable.output,
      hnonzero⟩, husable.finite⟩

end Amounts

/-- The prices of an order in a chart are the points of its history. -/
theorem prices_eq_points (h : v.IsOrder trades) (hkeys : Text.lower v.base ≠ Text.lower v.quote)
    (palette : Palette) (theme : String) :
    (v.chart palette trades).prices.map (fun p => (p.time, p.value)) =
      (History.points theme trades).map (fun p => (p.time, p.value)) := by
  have hprices := pricePoints_ascending (v.sums trades)
  refine eq_of_ascending Prod.fst (List.pairwise_map.2 hprices)
    (List.pairwise_map.2 (History.points_ascending theme trades)) fun (time, value) => ?_
  simp only [List.mem_map, Prod.mk.injEq]
  constructor
  · rintro ⟨p, hp, rfl, rfl⟩
    obtain ⟨t, ht, htime, hfinite, hvalue⟩ := h.lone.mem_prices_iff.1 hp
    obtain ⟨hmem, husable⟩ := mem_usable.1 ht
    rw [h.baseAmount_eq hkeys hmem, h.quoteAmount_eq hkeys hmem] at hfinite hvalue
    have hshown := (h.usable_iff hkeys hmem).1 ⟨husable, hfinite⟩
    refine ⟨⟨p.time, p.value, some (historyColor theme)⟩, ?_, rfl, rfl⟩
    exact h.lone.mem_points_iff.2 ⟨t, History.mem_usable.2 ⟨hmem, hshown⟩, htime, hvalue, rfl⟩
  · rintro ⟨p, hp, rfl, rfl⟩
    obtain ⟨t, ht, htime, hvalue, -⟩ := h.lone.mem_points_iff.1 hp
    obtain ⟨hmem, hshown⟩ := History.mem_usable.1 ht
    obtain ⟨husable, hfinite⟩ := (h.usable_iff hkeys hmem).2 hshown
    refine ⟨⟨p.time, p.value⟩, h.lone.mem_prices_iff.2 ⟨t, mem_usable.2 ⟨hmem, husable⟩, htime, ?_⟩,
      rfl, rfl⟩
    rw [h.baseAmount_eq hkeys hmem, h.quoteAmount_eq hkeys hmem]
    exact ⟨hfinite, hvalue⟩

/-- An order with a plain trade, a zero amount, an overflowing quotient, a price of zero and an amount
that is no number. -/
theorem prices_eq_points_extremes :
    let v : View := ⟨"0xA", "0xb", 1000, 500⟩
    let trades : List Trade := [.exchange 300 "0xB" 6.0 "0xa" 3.0,
      .exchange 100 "0xb" 1.0 "0xA" 0.0, .exchange 200 "0xB" 1e308 "0xa" 1e-308,
      .exchange (-50) "0xb" 0.0 "0xa" 5.0, .exchange 500 "0xb" (0.0 / 0.0) "0xA" 1.0]
    v.IsOrder trades ∧ Text.lower v.base ≠ Text.lower v.quote ∧
      (v.chart .standard trades).prices.map (fun p => (p.time, p.value)) =
        (History.points "dark" trades).map (fun p => (p.time, p.value)) ∧
      (History.points "dark" trades).map (fun p => (p.time, p.value)) = [(-50, 0.0), (300, 2.0)] := by
  intro v trades
  have horder : v.IsOrder trades := by
    constructor
    case lone => decide +kernel
    case shown => decide +kernel
    case input => decide +kernel
    case output => decide +kernel
  have hkeys : Text.lower v.base ≠ Text.lower v.quote := by decide +kernel
  have hsame := prices_eq_points horder hkeys .standard "dark"
  exact ⟨horder, hkeys, hsame, by decide +kernel⟩

end View.IsOrder

end TradeCharts
