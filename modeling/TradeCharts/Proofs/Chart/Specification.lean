import Mathlib.Data.Rat.Floor
import Mathlib.Data.List.Sort
import TradeCharts.History
import TradeCharts.Proofs.Amount.Magnitude
import TradeCharts.Proofs.Chart.Usable
import TradeCharts.Proofs.Window

/-!
The chart of a view, described point by point. A price stands at every moment with usable trades
whose base total is positive and whose quotient is finite; a bar stands at the start of every bucket
with usable trades of its direction. Nothing else is shown, so the description has exactly one
solution: the chart that is drawn.
-/
namespace TradeCharts

/-- The bars of one direction: what was bought, or what was sold. -/
def PairChart.bars (c : PairChart) (buying : Bool) : List ColoredPoint :=
  if buying then c.buyVolumes else c.sellVolumes

namespace View

/-- The base total of a moment: the base amounts of its usable trades from left to right. -/
def baseAt (v : View) (trades : List Trade) (time : Int) : Float :=
  History.sum (((v.usable trades).filter (·.timestamp = time)).map (·.baseAmount v.base))

def quoteAt (v : View) (trades : List Trade) (time : Int) : Float :=
  History.sum (((v.usable trades).filter (·.timestamp = time)).map (·.quoteAmount v.base))

/-- The bucket of a time: the last multiple of the width that is not after it. -/
def bucketFloor (v : View) (time : Int) : Int :=
  ⌊(time : ℚ) / v.bucketWidth⌋ * v.bucketWidth

/-- The volume of a bucket in one direction: the base amounts of its usable trades from left to
right. -/
def volumeAt (v : View) (buying : Bool) (trades : List Trade) (start : Int) : Float :=
  History.sum (((v.usableSide buying trades).filter (v.bucketFloor ·.timestamp = start)).map
    (·.baseAmount v.base))

structure IsPrice (v : View) (trades : List Trade) (p : PricePoint) : Prop where
  traded : ∃ t ∈ v.usable trades, t.timestamp = p.time
  positive : 0.0 < v.baseAt trades p.time
  finite : (v.quoteAt trades p.time / v.baseAt trades p.time).isFinite
  value : p.value = v.quoteAt trades p.time / v.baseAt trades p.time

/-- A bar of one direction: bought volumes stand above the axis, sold ones hang below it. -/
structure IsBar (v : View) (palette : Palette) (buying : Bool) (trades : List Trade)
    (p : ColoredPoint) : Prop where
  traded : ∃ t ∈ v.usableSide buying trades, v.bucketFloor t.timestamp = p.time
  value : p.value = if buying then v.volumeAt buying trades p.time
    else -v.volumeAt buying trades p.time
  color : p.color = some (if buying then palette.buyVolume else palette.sellVolume)

/-- What a chart has to show: exactly the prices and the bars, each series ascending in time. -/
structure Shows (v : View) (palette : Palette) (trades : List Trade) (c : PairChart) : Prop where
  prices_ascending : c.prices.Pairwise (·.time < ·.time)
  mem_prices : ∀ p, p ∈ c.prices ↔ v.IsPrice trades p
  buys_ascending : c.buyVolumes.Pairwise (·.time < ·.time)
  mem_buys : ∀ p, p ∈ c.buyVolumes ↔ v.IsBar palette true trades p
  sells_ascending : c.sellVolumes.Pairwise (·.time < ·.time)
  mem_sells : ∀ p, p ∈ c.sellVolumes ↔ v.IsBar palette false trades p

end View

/-- Bucket starts are floored quotients, also before 1970. -/
theorem View.bucketStart_eq_bucketFloor (v : View) (time : Int) :
    Window.bucketStart time v.bucketWidth = v.bucketFloor time := by
  have hw := Window.bucketWidth_pos v.window
  obtain ⟨w, hv⟩ := Int.eq_ofNat_of_zero_le hw.le
  unfold bucketFloor Window.bucketStart bucketWidth
  rw [hv, Int.cast_natCast, Rat.floor_intCast_div_natCast, Int.fdiv_eq_ediv_of_nonneg _ (by omega)]

theorem View.bucketOf_eq_bucketFloor (v : View) (t : Trade) :
    v.bucketOf t = v.bucketFloor t.timestamp :=
  v.bucketStart_eq_bucketFloor t.timestamp

theorem View.Shows.unique {v : View} {palette : Palette} {trades : List Trade} {c d : PairChart}
    (hc : v.Shows palette trades c) (hd : v.Shows palette trades d) : c = d := by
  have hp := eq_of_ascending PricePoint.time hc.prices_ascending hd.prices_ascending fun p =>
    (hc.mem_prices p).trans (hd.mem_prices p).symm
  have hb := eq_of_ascending ColoredPoint.time hc.buys_ascending hd.buys_ascending fun p =>
    (hc.mem_buys p).trans (hd.mem_buys p).symm
  have hs := eq_of_ascending ColoredPoint.time hc.sells_ascending hd.sells_ascending fun p =>
    (hc.mem_sells p).trans (hd.mem_sells p).symm
  cases c
  cases d
  simp_all

namespace Trade

lemma isMagnitude_baseAmount (t : Trade) (base : String) : IsMagnitude (t.baseAmount base) := by
  unfold baseAmount
  split_ifs
  · exact t.input.formattedAmount.isMagnitude
  · exact t.output.formattedAmount.isMagnitude

lemma isMagnitude_quoteAmount (t : Trade) (base : String) : IsMagnitude (t.quoteAmount base) := by
  unfold quoteAmount
  split_ifs
  · exact t.output.formattedAmount.isMagnitude
  · exact t.input.formattedAmount.isMagnitude

theorem zero_le_baseAmount (t : Trade) (base : String) : 0.0 ≤ t.baseAmount base :=
  (t.isMagnitude_baseAmount base).zero_le

theorem zero_le_quoteAmount (t : Trade) (base : String) : 0.0 ≤ t.quoteAmount base :=
  (t.isMagnitude_quoteAmount base).zero_le

end Trade

theorem History.sum_append_singleton (xs : List Float) (x : Float) :
    History.sum (xs ++ [x]) = History.sum xs + x := by
  simp [History.sum]

/-- A running total never becomes NaN and never falls below zero, although it may overflow. -/
theorem History.zero_le_sum {xs : List Float} (h : ∀ x ∈ xs, 0.0 ≤ x) : 0.0 ≤ History.sum xs := by
  induction xs using List.reverseRecOn with
  | nil => decide
  | append_singleton xs x ih =>
    rw [sum_append_singleton]
    exact Binary64.zero_le_add (ih fun y hy => h y (by simp [hy])) (h x (by simp))

namespace View

variable {v : View} {palette : Palette} {trades : List Trade}

theorem zero_le_baseAt (v : View) (trades : List Trade) (time : Int) :
    0.0 ≤ v.baseAt trades time := by
  refine History.zero_le_sum fun x hx => ?_
  obtain ⟨t, -, rfl⟩ := List.mem_map.1 hx
  exact t.zero_le_baseAmount v.base

/-- Reading a moment's trades one by one sums base and quote amounts side by side. -/
theorem foldl_addAmounts (v : View) (ts : List Trade) :
    ts.foldl v.addAmounts .zero = ⟨History.sum (ts.map (·.baseAmount v.base)),
      History.sum (ts.map (·.quoteAmount v.base)), ts.length⟩ := by
  induction ts using List.reverseRecOn with
  | nil => rfl
  | append_singleton ts t ih =>
    rw [List.foldl_append, List.map_append, List.map_append, List.length_append, ih]
    simp [History.sum, addAmounts, PriceTotals.add]

theorem foldl_addBase (v : View) (ts : List Trade) :
    ts.foldl v.addBase 0.0 = History.sum (ts.map (·.baseAmount v.base)) := by
  rw [History.sum, List.foldl_map]
  rfl

/-- A price is shown unless the base total is zero or the quotient is not finite. -/
theorem price?_eq_some {b q x : Float} {n : Nat} (hb : 0.0 ≤ b) :
    (PriceTotals.mk b q n).price? = some x ↔ 0.0 < b ∧ (q / b).isFinite ∧ x = q / b := by
  rw [Binary64.zero_lt_iff_not_le hb]
  by_cases hz : b ≤ 0.0
  · simp [PriceTotals.price?, hz]
  · by_cases hf : (q / b).isFinite <;> simp [PriceTotals.price?, hz, hf, eq_comm]

theorem mem_pricePoints {s : ChartSums} {p : PricePoint} :
    p ∈ s.pricePoints ↔
      ∃ totals, (p.time, totals) ∈ s.prices.entries ∧ totals.price? = some p.value := by
  simp only [ChartSums.pricePoints, List.mem_filterMap, Prod.exists, PriceTotals.point?,
    Option.map_eq_some_iff]
  constructor
  · rintro ⟨time, totals, hm, x, hx, rfl⟩
    exact ⟨totals, hm, hx⟩
  · rintro ⟨totals, hm, hx⟩
    exact ⟨p.time, totals, hm, p.value, hx, rfl⟩

theorem mem_prices_iff {p : PricePoint} :
    p ∈ (v.chart palette trades).prices ↔ v.IsPrice trades p := by
  have hs : (Timeline.itemsAt Trade.timestamp (v.usable trades) p.time).foldl v.addAmounts .zero =
      ⟨v.baseAt trades p.time, v.quoteAt trades p.time, _⟩ := v.foldl_addAmounts _
  change p ∈ (v.sums trades).pricePoints ↔ _
  rw [mem_pricePoints, sums_prices]
  simp only [Timeline.mem_entries_gather, hs]
  constructor
  · rintro ⟨totals, ⟨ht, rfl⟩, hp⟩
    obtain ⟨hpos, hfin, hval⟩ := (price?_eq_some (v.zero_le_baseAt trades p.time)).1 hp
    exact ⟨ht, hpos, hfin, hval⟩
  · intro h
    refine ⟨_, ⟨h.traded, rfl⟩, ?_⟩
    exact (price?_eq_some (v.zero_le_baseAt trades p.time)).2 ⟨h.positive, h.finite, h.value⟩

theorem pricePoints_ascending (s : ChartSums) : s.pricePoints.Pairwise (·.time < ·.time) := by
  refine List.Pairwise.filterMap _ (fun p q hpq a ha b hb => ?_) s.prices.ascending
  obtain ⟨x, -, rfl⟩ := Option.map_eq_some_iff.1 ha
  obtain ⟨y, -, rfl⟩ := Option.map_eq_some_iff.1 hb
  exact hpq

theorem points_ascending (b : VolumeBuckets) (color : Option String) (negate : Bool) :
    (b.points color negate).Pairwise (·.time < ·.time) :=
  List.pairwise_map.2 b.ascending

lemma map_time_points (b : VolumeBuckets) (color : Option String) (negate : Bool) :
    (b.points color negate).map (·.time) = b.times := by
  simp [VolumeBuckets.points, Timeline.times]

theorem mem_points {b : VolumeBuckets} {color : Option String} {negate : Bool} {p : ColoredPoint} :
    p ∈ b.points color negate ↔ ∃ total, (p.time, total) ∈ b.entries ∧
      p.value = (if negate then -total else total) ∧ p.color = color := by
  simp only [VolumeBuckets.points, List.mem_map, Prod.exists]
  constructor
  · rintro ⟨start, total, hm, rfl⟩
    exact ⟨total, hm, rfl, rfl⟩
  · rintro ⟨total, hm, hv, hc⟩
    exact ⟨p.time, total, hm, by rw [← hv, ← hc]⟩

/-- The bars of a direction are what its buckets hold. -/
theorem mem_bars_iff (buying : Bool) {p : ColoredPoint} :
    p ∈ ((v.sums trades).volumes buying).points
        (some (if buying then palette.buyVolume else palette.sellVolume)) (!buying) ↔
      v.IsBar palette buying trades p := by
  have hs : (Timeline.itemsAt v.bucketOf (v.usableSide buying trades) p.time).foldl v.addBase 0.0 =
      v.volumeAt buying trades p.time := by
    rw [foldl_addBase, Timeline.itemsAt, volumeAt]
    simp only [bucketOf_eq_bucketFloor]
  rw [mem_points, sums_volumes]
  simp only [Timeline.mem_entries_gather, hs, bucketOf_eq_bucketFloor]
  constructor
  · rintro ⟨total, ⟨ht, rfl⟩, hv, hc⟩
    refine ⟨ht, ?_, hc⟩
    cases buying <;> simpa using hv
  · intro h
    refine ⟨_, ⟨h.traded, rfl⟩, ?_, h.color⟩
    have hv := h.value
    cases buying <;> simpa using hv

lemma mem_bars {buying : Bool} {p : ColoredPoint} :
    p ∈ (v.chart palette trades).bars buying ↔ v.IsBar palette buying trades p := by
  cases buying with
  | true => exact mem_bars_iff true
  | false => exact mem_bars_iff false

lemma bars_ascending (v : View) (palette : Palette) (trades : List Trade) (buying : Bool) :
    ((v.chart palette trades).bars buying).Pairwise (·.time < ·.time) := by
  cases buying with
  | true => exact points_ascending _ _ _
  | false => exact points_ascending _ _ _

theorem shows_chart (v : View) (palette : Palette) (trades : List Trade) :
    v.Shows palette trades (v.chart palette trades) where
  prices_ascending := pricePoints_ascending _
  mem_prices _ := mem_prices_iff
  buys_ascending := v.bars_ascending palette trades true
  mem_buys _ := mem_bars_iff true
  sells_ascending := v.bars_ascending palette trades false
  mem_sells _ := mem_bars_iff false

/-- A chart is drawn as described, and in no other way. -/
theorem shows_iff_eq_chart (v : View) (palette : Palette) (trades : List Trade) (c : PairChart) :
    v.Shows palette trades c ↔ c = v.chart palette trades := by
  constructor
  · intro h
    exact h.unique (v.shows_chart palette trades)
  · rintro rfl
    exact v.shows_chart palette trades

end View

end TradeCharts
