import TradeCharts.Proofs.Chart.Specification
import TradeCharts.Proofs.History.Usable
import TradeCharts.Proofs.Pair.Default
import TradeCharts.Proofs.Snapshot.Times

/-!
Trades of different moments may stand in any order. Prices, histories, the places of bars and the
default pair depend only on what happened at each moment and in which order there, and sorting by
time keeps that (`interleaving_irrelevant`). The heights of bars are not among these results: a bucket
adds up trades of several moments, and sums of doubles depend on the order.
-/
namespace TradeCharts

/-- Every moment has the same trades in the same order. -/
def SameMoments (trades trades' : List Trade) : Prop :=
  ∀ time, Timeline.itemsAt Trade.timestamp trades time =
    Timeline.itemsAt Trade.timestamp trades' time

namespace SameMoments

variable {trades trades' : List Trade}

lemma symm (h : SameMoments trades trades') : SameMoments trades' trades :=
  fun time => (h time).symm

lemma subset (h : SameMoments trades trades') {t : Trade} (ht : t ∈ trades) : t ∈ trades' := by
  have hat : t ∈ Timeline.itemsAt Trade.timestamp trades t.timestamp :=
    List.mem_filter.2 ⟨ht, decide_eq_true rfl⟩
  rw [h] at hat
  exact (List.mem_filter.1 hat).1

lemma filter (h : SameMoments trades trades') (p : Trade → Bool) :
    SameMoments (trades.filter p) (trades'.filter p) := by
  intro time
  rw [Timeline.itemsAt_filter, Timeline.itemsAt_filter, h]

/-- Only moments with trades need to be compared. -/
lemma iff_forall_mem : SameMoments trades trades' ↔ ∀ t ∈ trades ++ trades',
    Timeline.itemsAt Trade.timestamp trades t.timestamp =
      Timeline.itemsAt Trade.timestamp trades' t.timestamp := by
  constructor
  · intro h t _
    exact h t.timestamp
  · intro h time
    by_cases ht : ∃ t ∈ trades ++ trades', t.timestamp = time
    · obtain ⟨t, ht, rfl⟩ := ht
      exact h t ht
    · have hnil {l : List Trade} (hl : l ⊆ trades ++ trades') :
          Timeline.itemsAt Trade.timestamp l time = [] := by
        by_contra hne
        obtain ⟨t, hmem, htime⟩ := Timeline.itemsAt_ne_nil.1 hne
        exact ht ⟨t, hl hmem, htime⟩
      rw [hnil (List.subset_append_left _ _), hnil (List.subset_append_right _ _)]

instance (trades trades' : List Trade) : Decidable (SameMoments trades trades') :=
  decidable_of_iff _ iff_forall_mem.symm

end SameMoments

namespace Snapshot

/-- Sorting by time keeps the order within each moment. -/
theorem sameMoments_sort (trades : List Trade) : SameMoments trades (sort trades) := by
  intro time
  have hmoment : (Timeline.itemsAt Trade.timestamp trades time).Pairwise
      fun t u => decide (t.timestamp ≤ u.timestamp) := by
    refine List.pairwise_of_forall_mem_list fun t ht u hu => ?_
    have htime := of_decide_eq_true (List.mem_filter.1 ht).2
    have hutime := of_decide_eq_true (List.mem_filter.1 hu).2
    exact decide_eq_true (by omega)
  -- A stable sort keeps sublists in order; being a permutation it adds nothing to a moment.
  have hsub : (Timeline.itemsAt Trade.timestamp trades time).Sublist (sort trades) :=
    List.sublist_mergeSort (by simp; omega) (by simp; omega) hmoment List.filter_sublist
  have hsub' : (Timeline.itemsAt Trade.timestamp trades time).Sublist
      (Timeline.itemsAt Trade.timestamp (sort trades) time) := by
    have h := hsub.filter fun t => decide (t.timestamp = time)
    simpa [Timeline.itemsAt] using h
  refine hsub'.eq_of_length ?_
  exact ((List.mergeSort_perm trades _).filter _).length_eq.symm

end Snapshot

structure ShownAlike (trades trades' : List Trade) : Prop where
  prices : ∀ (v : View) (palette : Palette),
    (v.chart palette trades).prices = (v.chart palette trades').prices
  buy_times : ∀ (v : View) (palette : Palette),
    (v.chart palette trades).buyVolumes.map (·.time) =
      (v.chart palette trades').buyVolumes.map (·.time)
  sell_times : ∀ (v : View) (palette : Palette),
    (v.chart palette trades).sellVolumes.map (·.time) =
      (v.chart palette trades').sellVolumes.map (·.time)
  history : ∀ theme, History.points theme trades = History.points theme trades'
  default_pair : defaultPair? trades = defaultPair? trades'

namespace SameMoments

variable {trades trades' : List Trade}

lemma sums_prices (h : SameMoments trades trades') (v : View) :
    (v.sums trades).prices = (v.sums trades').prices := by
  rw [View.sums_prices, View.sums_prices]
  exact Timeline.gather_congr (h.filter _)

/-- A bucket is in use when some trade falls into it, wherever that stands. -/
lemma times_volumes (h : SameMoments trades trades') (v : View) (buying : Bool) :
    ((v.sums trades).volumes buying).times = ((v.sums trades').volumes buying).times := by
  have hside : SameMoments (v.usableSide buying trades) (v.usableSide buying trades') :=
    (h.filter _).filter _
  rw [View.sums_volumes, View.sums_volumes]
  refine Timeline.times_gather_congr fun start => ?_
  constructor
  · rintro ⟨t, ht, hstart⟩
    exact ⟨t, hside.subset ht, hstart⟩
  · rintro ⟨t, ht, hstart⟩
    exact ⟨t, hside.symm.subset ht, hstart⟩

lemma samples_groups (h : SameMoments trades trades') :
    (History.groups trades).samples = (History.groups trades').samples := by
  rw [History.groups_samples_eq, History.groups_samples_eq]
  exact Timeline.gather_congr (h.filter _)

lemma isOldest (h : SameMoments trades trades') {t : Trade} (ht : IsOldest trades t) :
    IsOldest trades' t := by
  constructor
  · intro u hu
    exact ht.least u (h.symm.subset hu)
  · rw [← h]
    exact ht.first

lemma oldestTrade?_eq (h : SameMoments trades trades') :
    oldestTrade? trades = oldestTrade? trades' := by
  refine Option.ext fun t => ?_
  rw [oldestTrade?_eq_some_iff, oldestTrade?_eq_some_iff]
  exact ⟨h.isOldest, h.symm.isOldest⟩

theorem shownAlike (h : SameMoments trades trades') : ShownAlike trades trades' where
  prices v palette := by
    change (v.sums trades).pricePoints = (v.sums trades').pricePoints
    rw [ChartSums.pricePoints, ChartSums.pricePoints, h.sums_prices v]
  buy_times v palette := by
    simp only [View.chart, View.map_time_points]
    exact h.times_volumes v true
  sell_times v palette := by
    simp only [View.chart, View.map_time_points]
    exact h.times_volumes v false
  history theme := by
    rw [History.points_eq, History.points_eq, h.samples_groups]
  default_pair := by
    rw [defaultPair?, defaultPair?, h.oldestTrade?_eq]

end SameMoments

/-- How trades of different moments interleave has no influence on prices, on the places of bars, on
histories and on the default pair; sorting trades by time only changes that. -/
theorem interleaving_irrelevant (trades : List Trade) :
    SameMoments trades (Snapshot.sort trades) ∧
      ∀ trades', SameMoments trades trades' → ShownAlike trades trades' :=
  ⟨Snapshot.sameMoments_sort trades, fun _ h => h.shownAlike⟩

/-- Two moments of two trades each, interleaved in two ways. The bars of the two lists stand at one
place but differ in height, since a small amount is lost when it comes after a large one. -/
theorem interleaving_irrelevant_crossing :
    let trades : List Trade := [.exchange 20 "a" 1.0 "b" 2.0, .exchange 20 "a" 1.0 "b" 1.0,
      .exchange 10 "a" 1e16 "b" 4.0, .exchange 10 "b" 3.0 "a" 2.0]
    let trades' : List Trade := [.exchange 10 "a" 1e16 "b" 4.0, .exchange 20 "a" 1.0 "b" 2.0,
      .exchange 10 "b" 3.0 "a" 2.0, .exchange 20 "a" 1.0 "b" 1.0]
    let v : View := ⟨"a", "b", 3600, 100⟩
    SameMoments trades trades' ∧ ShownAlike trades trades' ∧
      (v.chart .standard trades).buyVolumes.map (·.value) = [1e16 + 2.0] ∧
      (v.chart .standard trades').buyVolumes.map (·.value) = [1e16] := by
  intro trades trades' v
  have hmoments : SameMoments trades trades' := by decide +kernel
  exact ⟨hmoments, (interleaving_irrelevant trades).2 trades' hmoments, by decide +kernel,
    by decide +kernel⟩

end TradeCharts
