import TradeCharts.Proofs.Chart.Totals
import TradeCharts.Proofs.Label.Text

/-!
The counts that a run reports. Reading a trade either reports a skip or merges the trade into the
totals of its moment, so the trades of the window are the skipped ones and the merged ones
(`length_skips_add_merged`). Every point of a chart stands for at least one merged trade
(`length_pricePoints_le`, `size_buys_add_size_sells_le`).
-/
namespace TradeCharts

namespace LogEntry

def summary? : LogEntry → Option PairSummary
  | pairSummary s => some s
  | _ => none

def ReportsSkip (e : LogEntry) : Prop :=
  "Skipping trade ".toList <+: e.message.toList

instance : DecidablePred ReportsSkip := fun e =>
  inferInstanceAs (Decidable ("Skipping trade ".toList <+: e.message.toList))

/-- The messages of skips, and no others, say that a trade is skipped. -/
theorem reportsSkip_iff (e : LogEntry) : e.ReportsSkip ↔ ∃ t reason, e = .skipped t reason := by
  unfold ReportsSkip message
  cases e with
  | skipped t reason =>
    refine iff_of_true ?_ ⟨t, reason, rfl⟩
    simp only [toString, String.toList_append, List.append_assoc]
    exact List.prefix_append _ _
  | pairSummary s =>
    unfold PairSummary.text
    simp [toString]
  | droppedPoint => simp [toString]
  | gapsComputed => simp [toString]
  | snapshotLoaded => simp [toString]
  | settingsLoading => simp [toString]

end LogEntry

/-- When every update counts for one more at its time, it counts for one more in all. -/
theorem Timeline.sum_updateEntries {α : Type} {count : α → Nat} {f : Option α → α}
    (hf : ∀ a?, count (f a?) = (a?.map count).getD 0 + 1) (t : Int) (l : List (Int × α)) :
    ((updateEntries t f l).map (count ·.2)).sum = (l.map (count ·.2)).sum + 1 := by
  induction l with
  | nil => simp [updateEntries, hf]
  | cons entry rest ih =>
    obtain ⟨s, a⟩ := entry
    simp only [updateEntries]
    split_ifs
    · simp only [List.map_cons, List.sum_cons, hf, Option.map_none, Option.getD_none]
      omega
    · simp only [List.map_cons, List.sum_cons, hf, Option.map_some, Option.getD_some]
      omega
    · simp only [List.map_cons, List.sum_cons, ih]
      omega

namespace ChartSums

theorem merged_eq (s : ChartSums) : s.merged = (s.prices.entries.map (·.2.trades)).sum := by
  rw [merged, List.sum_eq_foldl, List.foldl_map]

theorem merged_add (s : ChartSums) (width : Int) (e : Execution) :
    (s.add width e).merged = s.merged + 1 := by
  rw [merged_eq, merged_eq]
  apply Timeline.sum_updateEntries
  intro totals?
  cases totals? <;> rfl

/-- One more trade is accounted for, as skipped or as merged. -/
theorem accounted_read (s : ChartSums) (base : String) (width : Int) (t : Trade) :
    (s.read base width t).skips.length + (s.read base width t).merged =
      s.skips.length + s.merged + 1 := by
  have hskip (reason : SkipReason) : (s.skip t reason).skips.length + (s.skip t reason).merged =
      s.skips.length + s.merged + 1 :=
    Nat.add_right_comm s.skips.length 1 s.merged
  unfold read
  cases t.execution? base with
  | none => exact hskip _
  | some e =>
    dsimp only
    split_ifs
    · exact hskip _
    · rw [merged_add]
      rfl

theorem accounted_foldl (base : String) (width : Int) (trades : List Trade) (s : ChartSums) :
    (trades.foldl (read base width) s).skips.length + (trades.foldl (read base width) s).merged =
      s.skips.length + s.merged + trades.length := by
  induction trades generalizing s with
  | nil => rfl
  | cons t trades ih =>
    rw [List.foldl_cons, ih, accounted_read, List.length_cons]
    omega

end ChartSums

namespace View

variable {v : View} {palette : Palette} {trades : List Trade}

theorem length_skips_add_merged (v : View) (trades : List Trade) :
    (v.sums trades).skips.length + (v.sums trades).merged = (v.trades trades).length := by
  rw [sums, ChartSums.accounted_foldl]
  exact Nat.zero_add _

theorem merged_sums (v : View) (trades : List Trade) :
    (v.sums trades).merged = (v.usable trades).length := by
  induction trades using List.reverseRecOn with
  | nil => rfl
  | append_singleton trades t ih =>
    rw [usable_append_singleton]
    by_cases h : v.Usable t
    · rw [sums_of_usable h, ChartSums.merged_add, ih, if_pos h, List.length_append]
      rfl
    · obtain ⟨skips, hs⟩ := sums_of_not_usable trades h
      rw [hs, if_neg h, List.append_nil, ← ih]
      rfl

/-- A price has at least one trade of its moment behind it. -/
theorem length_pricePoints_le (v : View) (trades : List Trade) :
    (v.sums trades).pricePoints.length ≤ (v.sums trades).merged := by
  calc (v.sums trades).pricePoints.length
      ≤ (v.sums trades).prices.size := List.length_filterMap_le _ _
    _ ≤ (v.usable trades).length := by
        rw [sums_prices]
        exact Timeline.size_gather_le _
    _ = (v.sums trades).merged := (v.merged_sums trades).symm

lemma size_volumes_le (v : View) (trades : List Trade) (buying : Bool) :
    ((v.sums trades).volumes buying).size ≤ (v.usableSide buying trades).length := by
  rw [sums_volumes]
  exact Timeline.size_gather_le _

/-- A bar has at least one trade of its bucket behind it, and no trade is behind bars of both
directions. -/
theorem size_buys_add_size_sells_le (v : View) (trades : List Trade) :
    (v.sums trades).buys.size + (v.sums trades).sells.size ≤ (v.sums trades).merged := by
  have hbuys := v.size_volumes_le trades true
  have hsells := v.size_volumes_le trades false
  have hsides : (v.usable trades).length =
      (v.usableSide true trades).length + (v.usableSide false trades).length := by
    simpa [usableSide] using (v.usable trades).length_eq_length_filter_add (·.buys v.base)
  rw [merged_sums, hsides]
  exact Nat.add_le_add hbuys hsells

lemma exists_of_mem_skips {e : LogEntry} (h : e ∈ v.skips trades) :
    ∃ t reason, e = .skipped t reason := by
  obtain ⟨t, -, ht⟩ := List.mem_filterMap.1 h
  obtain ⟨reason, -, rfl⟩ := Option.map_eq_some_iff.1 ht
  exact ⟨t, reason, rfl⟩

/-- Every skip has a line of its own, and there are no other lines on skips. -/
theorem countP_reportsSkip_log (v : View) (trades : List Trade) :
    (v.log trades).countP (·.ReportsSkip) = (v.sums trades).skips.length := by
  have hskips : (v.skips trades).countP (·.ReportsSkip) = (v.skips trades).length := by
    rw [List.countP_eq_length]
    intro e he
    exact decide_eq_true ((LogEntry.reportsSkip_iff e).2 (exists_of_mem_skips he))
  have hsummary : ¬ (LogEntry.pairSummary (v.summary trades)).ReportsSkip := by
    rw [LogEntry.reportsSkip_iff]
    rintro ⟨t, reason, he⟩
    cases he
  rw [log_eq, List.countP_append, hskips, List.countP_singleton, if_neg (by simpa using hsummary),
    sums_eq, List.length_reverse]
  rfl

theorem summaries_log (v : View) (trades : List Trade) :
    (v.log trades).filterMap LogEntry.summary? = [v.summary trades] := by
  rw [log_eq, List.filterMap_append, List.filterMap_eq_nil_iff.2]
  · rfl
  · intro e he
    obtain ⟨t, reason, rfl⟩ := exists_of_mem_skips he
    rfl

structure Balances (v : View) (palette : Palette) (trades : List Trade) (s : PairSummary) :
    Prop where
  inWindow : s.inWindow = (v.trades trades).length
  accounted : s.inWindow = s.skipped + s.merged
  skipped : s.skipped = (v.log trades).countP (·.ReportsSkip)
  merged : s.merged = (v.usable trades).length
  pricePoints : s.pricePoints = (v.chart palette trades).prices.length
  buyBuckets : s.buyBuckets = (v.chart palette trades).buyVolumes.length
  sellBuckets : s.sellBuckets = (v.chart palette trades).sellVolumes.length
  pricePoints_le : s.pricePoints ≤ s.merged
  buckets_le : s.buyBuckets + s.sellBuckets ≤ s.merged

/-- A run logs its counts once, and they balance. -/
theorem log_balances (v : View) (palette : Palette) (trades : List Trade) :
    ∃ s, (v.log trades).filterMap LogEntry.summary? = [s] ∧ v.Balances palette trades s := by
  refine ⟨v.summary trades, v.summaries_log trades, ?_⟩
  constructor
  case inWindow => rfl
  case accounted => exact (v.length_skips_add_merged trades).symm
  case skipped => exact (v.countP_reportsSkip_log trades).symm
  case merged => exact v.merged_sums trades
  case pricePoints => rfl
  case buyBuckets => exact (List.length_map _).symm
  case sellBuckets => exact (List.length_map _).symm
  case pricePoints_le => exact v.length_pricePoints_le trades
  case buckets_le => exact v.size_buys_add_size_sells_le trades

/-- Two merged trades of one moment, a trade without a number, one of nothing, a late one and one of
another pair. -/
theorem log_balances_mixed :
    let v : View := ⟨"a", "b", 1000, 1000⟩
    let trades : List Trade := [.exchange 10 "a" 1.0 "b" 2.0, .exchange 20 "a" (0.0 / 0.0) "b" 1.0,
      .exchange 10 "b" 4.0 "a" 2.0, .exchange 1001 "a" 1.0 "b" 1.0, .exchange 30 "b" 1.0 "a" 0.0,
      .exchange 40 "a" 1.0 "c" 1.0]
    (∃ s, (v.log trades).filterMap LogEntry.summary? = [s] ∧ v.Balances .standard trades s) ∧
      v.summary trades = ⟨"a", "b", 4, 6, 2, 2, 1, 1, 1⟩ := by
  intro v trades
  exact ⟨log_balances v .standard trades, by decide +kernel⟩

end View

end TradeCharts
