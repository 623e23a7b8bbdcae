import TradeCharts.Proofs.Chart.Totals

/-!
Volumes beyond the doubles. Every amount of a usable trade is finite, but a bar is a sum of any
number of them. A price is left out when it is not finite, a bar is drawn whatever it comes to: all
bars are finite exactly when no addition of a bucket overflows (`finite_bars_iff`).
-/
namespace TradeCharts.View

variable {v : View} {palette : Palette} {trades : List Trade} {buying : Bool} {start : Int}

def barAmounts (v : View) (buying : Bool) (trades : List Trade) (start : Int) : List Float :=
  (v.barTrades buying trades start).map (·.baseAmount v.base)

theorem isFinite_volumeAt_iff :
    (v.volumeAt buying trades start).isFinite ↔ History.InRange (v.barAmounts buying trades start) := by
  rw [volumeAt_eq]
  refine History.isFinite_sum_iff fun x hx => ?_
  obtain ⟨t, -, rfl⟩ := List.mem_map.1 hx
  exact ⟨t.zero_le_baseAmount v.base, t.isFinite_baseAmount v.base⟩

lemma barAmounts_eq_nil
    (h : ¬ ∃ t ∈ v.usableSide buying trades, v.bucketFloor t.timestamp = start) :
    v.barAmounts buying trades start = [] := by
  simpa [barAmounts, barTrades, List.filter_eq_nil_iff] using h

lemma IsBar.isFinite_iff {p : ColoredPoint} (h : v.IsBar palette buying trades p) :
    p.value.isFinite ↔ History.InRange (v.barAmounts buying trades p.time) := by
  rw [h.value, ← isFinite_volumeAt_iff]
  cases buying with
  | true => rfl
  | false => exact Binary64.isFinite_neg _

/-- The bars of one direction are finite when its buckets stay in range; a time without a bar has
nothing to add up. -/
lemma forall_isBar_isFinite_iff (palette : Palette) (buying : Bool) :
    (∀ p, v.IsBar palette buying trades p → p.value.isFinite) ↔
      ∀ start, History.InRange (v.barAmounts buying trades start) := by
  constructor
  · intro h start
    by_cases ht : ∃ t ∈ v.usableSide buying trades, v.bucketFloor t.timestamp = start
    · let value := v.volumeAt buying trades start
      have hbar : v.IsBar palette buying trades
        ⟨start, if buying then value else -value, _⟩ := ⟨ht, rfl, rfl⟩
      exact hbar.isFinite_iff.1 (h _ hbar)
    · rw [barAmounts_eq_nil ht]
      exact History.inRange_nil
  · intro h p hbar
    exact hbar.isFinite_iff.2 (h p.time)

/-- All bars of a chart are finite exactly when no addition of a bucket overflows. -/
theorem finite_bars_iff (v : View) (palette : Palette) (trades : List Trade) :
    ((∀ p ∈ (v.chart palette trades).buyVolumes, p.value.isFinite) ∧
      ∀ p ∈ (v.chart palette trades).sellVolumes, p.value.isFinite) ↔
    ∀ buying start, History.InRange (v.barAmounts buying trades start) := by
  have hbuys : (∀ p ∈ (v.chart palette trades).buyVolumes, p.value.isFinite) ↔
      ∀ start, History.InRange (v.barAmounts true trades start) := by
    rw [← forall_isBar_isFinite_iff palette true]
    exact forall_congr' fun p => imp_congr_left (mem_bars_iff true)
  have hsells : (∀ p ∈ (v.chart palette trades).sellVolumes, p.value.isFinite) ↔
      ∀ start, History.InRange (v.barAmounts false trades start) := by
    rw [← forall_isBar_isFinite_iff palette false]
    exact forall_congr' fun p => imp_congr_left (mem_bars_iff false)
  rw [hbuys, hsells, Bool.forall_bool, and_comm]

/-- Two exchanges of one bucket, each of a finite amount, and their infinite bar. -/
theorem bar_of_two_exchanges_overflows :
    let v : View := ⟨"a", "b", 1000, 100⟩
    let trades : List Trade := [.exchange 10 "a" 1e308 "b" 1.0, .exchange 20 "a" 1e308 "b" 1.0]
    (∀ t ∈ trades, (t.baseAmount v.base).isFinite ∧ (t.quoteAmount v.base).isFinite) ∧
      ¬ ∀ p ∈ (v.chart .standard trades).buyVolumes, p.value.isFinite := by
  decide +kernel

end TradeCharts.View
