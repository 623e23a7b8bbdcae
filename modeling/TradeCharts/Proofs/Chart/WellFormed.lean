import TradeCharts.Proofs.Chart.Division
import TradeCharts.Proofs.Chart.Totals
import TradeCharts.Proofs.Chart.Zoom

/-!
What a reader of a chart can rely on, whatever the trades hold: prices are finite and not negative,
bought volumes stand above the axis and sold ones below it, bars start at multiples of the bucket
width, nothing lies outside the window, and each series ascends in time.
-/
namespace TradeCharts

/-- A place for a bar of a view: the start of a bucket that reaches into the window. -/
structure View.IsBarTime (v : View) (start : Int) : Prop where
  aligned : v.bucketWidth ∣ start
  after : Window.bucketStart (v.now - v.window) v.bucketWidth ≤ start
  before : start ≤ v.now

structure View.WellFormed (v : View) (c : PairChart) : Prop where
  price_finite : ∀ p ∈ c.prices, p.value.isFinite
  price_nonneg : ∀ p ∈ c.prices, 0.0 ≤ p.value
  price_time : ∀ p ∈ c.prices, p.time ∈ v.span
  buy_pos : ∀ p ∈ c.buyVolumes, 0.0 < p.value
  buy_time : ∀ p ∈ c.buyVolumes, v.IsBarTime p.time
  sell_neg : ∀ p ∈ c.sellVolumes, p.value < 0.0
  sell_time : ∀ p ∈ c.sellVolumes, v.IsBarTime p.time
  prices_ascending : c.prices.Pairwise (·.time < ·.time)
  buys_ascending : c.buyVolumes.Pairwise (·.time < ·.time)
  sells_ascending : c.sellVolumes.Pairwise (·.time < ·.time)

namespace View

variable {v : View} {palette : Palette} {trades : List Trade} {buying : Bool}

lemma isBarTime_bucketFloor {time : Int} (h : time ∈ v.span) : v.IsBarTime (v.bucketFloor time) := by
  have hw : 0 < v.bucketWidth := Window.bucketWidth_pos v.window
  obtain ⟨hafter, hbefore⟩ := h
  rw [← bucketStart_eq_bucketFloor]
  have hle := Window.bucketStart_le time hw
  exact ⟨Window.dvd_bucketStart time _, Window.bucketStart_mono hw hafter, by omega⟩

lemma IsBar.isBarTime {p : ColoredPoint} (h : v.IsBar palette buying trades p) :
    v.IsBarTime p.time := by
  obtain ⟨t, ht, hstart⟩ := h.traded
  rw [← hstart]
  exact isBarTime_bucketFloor (mem_usable.1 (mem_usableSide.1 ht).1).2.mem_span

lemma IsPrice.zero_le {p : PricePoint} (h : v.IsPrice trades p) : 0.0 ≤ p.value := by
  rw [h.value]
  exact Binary64.zero_le_div (v.zero_le_quoteAt trades p.time) h.positive h.finite

/-- A chart is well formed, and drawing it divides by no zero. -/
theorem wellFormed_chart (v : View) (palette : Palette) (trades : List Trade) :
    v.checkedChart palette trades = some (v.chart palette trades) ∧
      v.WellFormed (v.chart palette trades) := by
  refine ⟨v.checkedChart_eq palette trades, ?_⟩
  have hprice {p : PricePoint} (hp : p ∈ (v.chart palette trades).prices) : v.IsPrice trades p :=
    mem_prices_iff.1 hp
  have hbuy {p : ColoredPoint} (hp : p ∈ (v.chart palette trades).buyVolumes) :
      v.IsBar palette true trades p := (mem_bars_iff true).1 hp
  have hsell {p : ColoredPoint} (hp : p ∈ (v.chart palette trades).sellVolumes) :
      v.IsBar palette false trades p := (mem_bars_iff false).1 hp
  have hshows := v.shows_chart palette trades
  constructor
  case price_finite =>
    intro p hp
    rw [(hprice hp).value]
    exact (hprice hp).finite
  case price_nonneg =>
    intro p hp
    exact (hprice hp).zero_le
  case price_time =>
    intro p hp
    exact mem_span_of_traded (hprice hp).traded
  case buy_pos =>
    intro p hp
    rw [(hbuy hp).value]
    exact zero_lt_volumeAt (hbuy hp).traded
  case buy_time =>
    intro p hp
    exact (hbuy hp).isBarTime
  case sell_neg =>
    intro p hp
    rw [(hsell hp).value]
    exact Binary64.neg_lt_zero (zero_lt_volumeAt (hsell hp).traded)
  case sell_time =>
    intro p hp
    exact (hsell hp).isBarTime
  case prices_ascending => exact hshows.prices_ascending
  case buys_ascending => exact hshows.buys_ascending
  case sells_ascending => exact hshows.sells_ascending

end View

end TradeCharts
