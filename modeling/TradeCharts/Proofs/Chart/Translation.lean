import TradeCharts.Proofs.Chart.Specification

/-!
Charts moved in time. When all trades and the end of the window move by one distance, the same
trades stay usable and every total moves along (`sums_prices_later`). Bars follow when the distance
is a number of whole buckets, since buckets are floored at all times alike, before 1970 and after it
(`chart_later`).
-/
namespace TradeCharts

namespace Timeline

variable {α β : Type} {time : β → Int} {merge : α → β → α} {zero : α} {f : β → β} {distance : Int}

/-- Moves every entry by a distance; a negative one moves it back. -/
def later (l : Timeline α) (distance : Int) : Timeline α where
  entries := l.entries.map fun (t, a) => (t + distance, a)
  ascending := by
    refine List.pairwise_map.2 (l.ascending.imp fun h => ?_)
    exact Int.add_lt_add_right h distance

lemma get?_later (l : Timeline α) (distance t : Int) :
    (l.later distance).get? (t + distance) = l.get? t := by
  refine Option.ext fun a => ?_
  rw [← mem_entries_iff, ← mem_entries_iff]
  simp only [later, List.mem_map, Prod.exists, Prod.mk.injEq]
  constructor
  · rintro ⟨s, b, hmem, hs, rfl⟩
    obtain rfl : s = t := by omega
    exact hmem
  · intro hmem
    exact ⟨t, a, hmem, rfl, rfl⟩

section Gather

variable (htime : ∀ b, time (f b) = time b + distance) (hmerge : ∀ a b, merge a (f b) = merge a b)
include htime

lemma itemsAt_later (items : List β) (t : Int) :
    itemsAt time (items.map f) (t + distance) = (itemsAt time items t).map f := by
  unfold itemsAt
  rw [List.filter_map]
  refine congrArg (List.map f) (List.filter_congr fun b _ => decide_eq_decide.2 ?_)
  rw [htime]
  omega

include hmerge

/-- Items that only move fill the same timeline, moved. -/
theorem gather_later (items : List β) :
    gather time merge zero (items.map f) = (gather time merge zero items).later distance := by
  refine ext_get? fun t => ?_
  obtain ⟨s, rfl⟩ : ∃ s, t = s + distance := ⟨t - distance, by omega⟩
  have hfold (bs : List β) : (bs.map f).foldl merge zero = bs.foldl merge zero := by
    rw [List.foldl_map]
    simp only [hmerge]
  rw [get?_later, get?_gather, get?_gather, itemsAt_later htime, hfold]
  simp only [List.map_eq_nil_iff]

end Gather

end Timeline

def Trade.later (t : Trade) (distance : Int) : Trade :=
  { t with timestamp := t.timestamp + distance }

def View.later (v : View) (distance : Int) : View :=
  { v with now := v.now + distance }

def PricePoint.later (p : PricePoint) (distance : Int) : PricePoint :=
  { p with time := p.time + distance }

def ColoredPoint.later (p : ColoredPoint) (distance : Int) : ColoredPoint :=
  { p with time := p.time + distance }

def PairChart.later (c : PairChart) (distance : Int) : PairChart where
  prices := c.prices.map (·.later distance)
  buyVolumes := c.buyVolumes.map (·.later distance)
  sellVolumes := c.sellVolumes.map (·.later distance)

namespace View

variable {v : View} {distance : Int}

lemma usable_later_iff {t : Trade} : (v.later distance).Usable (t.later distance) ↔ v.Usable t := by
  have hafter : v.now + distance - v.window ≤ t.timestamp + distance ↔
      v.now - v.window ≤ t.timestamp := by omega
  have hbefore : t.timestamp + distance ≤ v.now + distance ↔ t.timestamp ≤ v.now := by omega
  constructor
  · intro h
    exact ⟨hafter.1 h.after, hbefore.1 h.before, h.ofPair, h.input, h.output, h.base⟩
  · intro h
    exact ⟨hafter.2 h.after, hbefore.2 h.before, h.ofPair, h.input, h.output, h.base⟩

lemma usable_later (v : View) (trades : List Trade) (distance : Int) :
    (v.later distance).usable (trades.map (·.later distance)) =
      (v.usable trades).map (·.later distance) := by
  unfold usable
  rw [List.filter_map]
  refine congrArg (List.map _) (List.filter_congr fun t _ => decide_eq_decide.2 ?_)
  exact usable_later_iff

lemma usableSide_later (v : View) (buying : Bool) (trades : List Trade) (distance : Int) :
    (v.later distance).usableSide buying (trades.map (·.later distance)) =
      (v.usableSide buying trades).map (·.later distance) := by
  unfold usableSide
  rw [usable_later, List.filter_map]
  rfl

/-- Prices move by any distance. -/
theorem sums_prices_later (v : View) (trades : List Trade) (distance : Int) :
    ((v.later distance).sums (trades.map (·.later distance))).prices =
      (v.sums trades).prices.later distance := by
  have htime (t : Trade) : (t.later distance).timestamp = t.timestamp + distance := rfl
  rw [sums_prices, sums_prices, usable_later]
  exact Timeline.gather_later htime (fun _ _ => rfl) _

/-- Bars move by whole buckets. -/
theorem sums_volumes_later (v : View) (trades : List Trade) (k : Int) (buying : Bool) :
    ((v.later (k * v.bucketWidth)).sums (trades.map (·.later (k * v.bucketWidth)))).volumes buying =
      ((v.sums trades).volumes buying).later (k * v.bucketWidth) := by
  have hbucket (t : Trade) : v.bucketOf (t.later (k * v.bucketWidth)) =
      v.bucketOf t + k * v.bucketWidth :=
    Window.bucketStart_add_mul t.timestamp k (Window.bucketWidth_pos v.window)
  rw [sums_volumes, sums_volumes, usableSide_later]
  exact Timeline.gather_later hbucket (fun _ _ => rfl) _

lemma pricePoints_later {s s' : ChartSums} (h : s'.prices = s.prices.later distance) :
    s'.pricePoints = s.pricePoints.map (·.later distance) := by
  unfold ChartSums.pricePoints
  rw [h, Timeline.later, List.filterMap_map, List.map_filterMap]
  refine List.filterMap_congr fun (time, totals) _ => ?_
  change totals.price?.map _ = (totals.price?.map _).map _
  rw [Option.map_map]
  rfl

lemma points_later (b : VolumeBuckets) (distance : Int) (color : Option String) (negate : Bool) :
    VolumeBuckets.points (b.later distance) color negate =
      (b.points color negate).map (·.later distance) := by
  unfold VolumeBuckets.points
  rw [Timeline.later, List.map_map, List.map_map]
  rfl

/-- Moving trades and window by whole buckets moves the chart and changes nothing else. -/
theorem chart_later (v : View) (palette : Palette) (trades : List Trade) (k : Int) :
    (v.later (k * v.bucketWidth)).chart palette (trades.map (·.later (k * v.bucketWidth))) =
      (v.chart palette trades).later (k * v.bucketWidth) := by
  have hprices := pricePoints_later (v.sums_prices_later trades (k * v.bucketWidth))
  have hbuys := v.sums_volumes_later trades k true
  have hsells := v.sums_volumes_later trades k false
  simp only [ChartSums.volumes, if_true, Bool.false_eq_true, if_false] at hbuys hsells
  unfold chart PairChart.later
  dsimp only
  rw [hprices, hbuys, hsells, points_later, points_later]

end View

end TradeCharts
