import Mathlib.Order.Interval.Set.Basic
import TradeCharts.Proofs.Chart.Specification

/-!
Charts of one pair over several windows. What a view makes of a trade depends on the window only
through the time of the trade, so the trades of a moment that two windows cover are usable in both or
in neither, and its price is the same (`isPrice_zoom`). A narrower window shows the prices of a wider
one that fall into it (`prices_zoom`), although its bars may have another width.
-/
namespace TradeCharts.View

/-- The times of the window, both ends included. -/
abbrev span (v : View) : Set Int :=
  Set.Icc (v.now - v.window) v.now

def zoom (v : View) (window now : Int) : View :=
  { v with window, now }

variable {v w : View} {window now : Int} {trades : List Trade} {t : Trade}

lemma Usable.mem_span (h : v.Usable t) : t.timestamp ∈ v.span :=
  ⟨h.after, h.before⟩

lemma mem_span_of_traded {time : Int} (h : ∃ t ∈ v.usable trades, t.timestamp = time) :
    time ∈ v.span := by
  obtain ⟨t, ht, rfl⟩ := h
  exact (of_decide_eq_true (List.mem_filter.1 ht).2 : v.Usable t).mem_span

/-- Beyond its time nothing of a trade is measured against the window. -/
lemma usable_zoom_iff (hn : t.timestamp ∈ (v.zoom window now).span) (hw : t.timestamp ∈ v.span) :
    (v.zoom window now).Usable t ↔ v.Usable t := by
  constructor
  · intro h
    exact ⟨hw.1, hw.2, h.ofPair, h.input, h.output, h.base⟩
  · intro h
    exact ⟨hn.1, hn.2, h.ofPair, h.input, h.output, h.base⟩

lemma filter_usable_congr {p : Trade → Bool} (h : ∀ t, p t → (v.Usable t ↔ w.Usable t))
    (trades : List Trade) : (v.usable trades).filter p = (w.usable trades).filter p := by
  simp only [usable, List.filter_filter]
  refine List.filter_congr fun t _ => ?_
  by_cases hp : p t
  · simp [hp, h t hp]
  · simp [hp]

lemma traded_iff {time : Int} : (∃ t ∈ v.usable trades, t.timestamp = time) ↔
    (v.usable trades).filter (·.timestamp = time) ≠ [] := by
  simp [List.filter_eq_nil_iff]

lemma isPrice_iff {p : PricePoint} : v.IsPrice trades p ↔
    (v.usable trades).filter (·.timestamp = p.time) ≠ [] ∧ 0.0 < v.baseAt trades p.time ∧
      (v.quoteAt trades p.time / v.baseAt trades p.time).isFinite ∧
      p.value = v.quoteAt trades p.time / v.baseAt trades p.time := by
  rw [← traded_iff]
  constructor
  · rintro ⟨ht, hpos, hfin, hval⟩
    exact ⟨ht, hpos, hfin, hval⟩
  · rintro ⟨ht, hpos, hfin, hval⟩
    exact ⟨ht, hpos, hfin, hval⟩

/-- The price of a moment does not depend on the window that covers it. -/
theorem isPrice_zoom {p : PricePoint} (hn : p.time ∈ (v.zoom window now).span)
    (hw : p.time ∈ v.span) : (v.zoom window now).IsPrice trades p ↔ v.IsPrice trades p := by
  have hsame : ((v.zoom window now).usable trades).filter (·.timestamp = p.time) =
      (v.usable trades).filter (·.timestamp = p.time) := by
    refine filter_usable_congr (fun t ht => ?_) trades
    have htime : t.timestamp = p.time := of_decide_eq_true ht
    rw [← htime] at hn hw
    exact usable_zoom_iff hn hw
  have hbase : (v.zoom window now).baseAt trades p.time = v.baseAt trades p.time := by
    unfold baseAt
    rw [hsame]
    rfl
  have hquote : (v.zoom window now).quoteAt trades p.time = v.quoteAt trades p.time := by
    unfold quoteAt
    rw [hsame]
    rfl
  rw [isPrice_iff, isPrice_iff, hsame, hbase, hquote]

/-- Zooming in and scrolling within a window keep the prices that stay in sight, in their order and
with their values, and bring no others. -/
theorem prices_zoom (h : (v.zoom window now).span ⊆ v.span) (palette palette' : Palette)
    (trades : List Trade) :
    ((v.zoom window now).chart palette trades).prices =
      (v.chart palette' trades).prices.filter (·.time ∈ (v.zoom window now).span) := by
  refine eq_of_ascending PricePoint.time (pricePoints_ascending _)
    ((pricePoints_ascending _).filter _) fun p => ?_
  rw [List.mem_filter, decide_eq_true_eq, mem_prices_iff, mem_prices_iff]
  constructor
  · intro hp
    have hn := mem_span_of_traded hp.traded
    exact ⟨(isPrice_zoom hn (h hn)).1 hp, hn⟩
  · rintro ⟨hp, hn⟩
    exact (isPrice_zoom hn (h hn)).2 hp

/-- Of the prices of two days, those of the last hour: the first trade leaves the window, and the
last two still share their moment. -/
theorem prices_zoom_lastHour :
    let v : View := ⟨"0xA", "0xb", 172800, 400000⟩
    let trades : List Trade := [.exchange 396399 "0xa" 1.0 "0xB" 9.0,
      .exchange 400000 "0xa" 3.0 "0xB" 6.0, .exchange 400000 "0xB" 3.0 "0xa" 1.0]
    (v.zoom 3600 400000).span ⊆ v.span ∧
      ((v.zoom 3600 400000).chart .standard trades).prices = [⟨400000, 2.25⟩] ∧
      ((v.zoom 3600 400000).chart .standard trades).prices =
        (v.chart .standard trades).prices.filter (·.time ∈ (v.zoom 3600 400000).span) := by
  intro v trades
  have hspan : (v.zoom 3600 400000).span ⊆ v.span := Set.Icc_subset_Icc (by decide) (by decide)
  exact ⟨hspan, by decide +kernel, prices_zoom hspan .standard .standard trades⟩

end TradeCharts.View
