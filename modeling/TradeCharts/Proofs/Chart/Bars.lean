import TradeCharts.Proofs.Chart.WellFormed

/-!
The bars of a chart, bucket by bucket. A bar adds up the trades of its bucket, so two windows that
both reach over the whole bucket show the same bar there (`bars_zoom`); at the ends of a window a
bucket may be cut, and its bar then counts only what is left. A window touches few buckets, however
many trades fall into them (`length_bars_le`).
-/
namespace TradeCharts.View

variable {v : View} {palette : Palette} {trades : List Trade} {buying : Bool}
  {window now start : Int}

abbrev bucketSpan (v : View) (start : Int) : Set Int :=
  Set.Ico start (start + v.bucketWidth)

lemma mem_bucketSpan (v : View) (time : Int) : time ∈ v.bucketSpan (v.bucketFloor time) := by
  have hw : 0 < v.bucketWidth := Window.bucketWidth_pos v.window
  rw [← bucketStart_eq_bucketFloor]
  exact ⟨Window.bucketStart_le time hw, Window.lt_bucketStart_add time hw⟩

lemma isBar_iff {p : ColoredPoint} : v.IsBar palette buying trades p ↔
    v.barTrades buying trades p.time ≠ [] ∧
      p.value = (if buying then v.volumeAt buying trades p.time
        else -v.volumeAt buying trades p.time) ∧
      p.color = some (if buying then palette.buyVolume else palette.sellVolume) := by
  rw [barTrades_ne_nil]
  constructor
  · intro h
    exact ⟨h.traded, h.value, h.color⟩
  · rintro ⟨ht, hvalue, hcolor⟩
    exact ⟨ht, hvalue, hcolor⟩

section Shared

variable (hwidth : (v.zoom window now).bucketWidth = v.bucketWidth)
  (hn : v.bucketSpan start ⊆ (v.zoom window now).span) (hv : v.bucketSpan start ⊆ v.span)
include hwidth hn hv

/-- All trades of the bucket lie in both windows, so the same ones are usable in both. -/
lemma barTrades_zoom (buying : Bool) (trades : List Trade) :
    (v.zoom window now).barTrades buying trades start = v.barTrades buying trades start := by
  have hfloor (time : Int) : (v.zoom window now).bucketFloor time = v.bucketFloor time := by
    rw [bucketFloor, bucketFloor, hwidth]
  unfold barTrades usableSide
  simp only [List.filter_filter, hfloor]
  refine filter_usable_congr (fun t ht => ?_) trades
  have hbucket : v.bucketFloor t.timestamp = start := by
    simp only [Bool.and_eq_true, decide_eq_true_eq] at ht
    exact ht.1
  have htime : t.timestamp ∈ v.bucketSpan start := by
    rw [← hbucket]
    exact v.mem_bucketSpan t.timestamp
  exact usable_zoom_iff (hn htime) (hv htime)

lemma isBar_zoom {p : ColoredPoint} (hp : p.time = start) :
    (v.zoom window now).IsBar palette buying trades p ↔ v.IsBar palette buying trades p := by
  have hsame := barTrades_zoom hwidth hn hv buying trades
  have hvolume : (v.zoom window now).volumeAt buying trades start =
      v.volumeAt buying trades start := by
    rw [volumeAt_eq, volumeAt_eq, hsame]
    rfl
  rw [isBar_iff, isBar_iff, hp, hsame, hvolume]

/-- In a bucket that two windows with buckets of one width cover, both show the same bar or none. -/
theorem bars_zoom (palette : Palette) (trades : List Trade) (buying : Bool) :
    (((v.zoom window now).chart palette trades).bars buying).filter (·.time = start) =
      ((v.chart palette trades).bars buying).filter (·.time = start) := by
  refine eq_of_ascending ColoredPoint.time ((bars_ascending _ _ _ _).filter _)
    ((bars_ascending _ _ _ _).filter _) fun p => ?_
  rw [List.mem_filter, List.mem_filter, decide_eq_true_eq, mem_bars, mem_bars]
  exact and_congr_left (isBar_zoom hwidth hn hv)

end Shared

/-- Two windows around the year 1970. The bucket that ends there is whole in both; the one before it
is cut by the shorter window, which misses its first trade. -/
theorem bars_zoom_aroundZero :
    let v : View := ⟨"0xA", "0xb", 3600, 1000⟩
    let w : View := v.zoom 2000 500
    let trades : List Trade := [.exchange (-1) "0xa" 2.0 "0xB" 1.0,
      .exchange (-1700) "0xa" 8.0 "0xB" 5.0, .exchange (-900) "0xa" 1.0 "0xB" 4.0,
      .exchange 0 "0xa" 3.0 "0xB" 1.0, .exchange (-1400) "0xa" 6.0 "0xb" 1.0]
    w.bucketWidth = v.bucketWidth ∧ v.bucketSpan (-900) ⊆ w.span ∧ v.bucketSpan (-900) ⊆ v.span ∧
      ((w.chart .standard trades).bars true).filter (·.time = -900) =
        ((v.chart .standard trades).bars true).filter (·.time = -900) ∧
      ((v.chart .standard trades).bars true).map (fun p => (p.time, p.value)) =
        [(-1800, 14.0), (-900, 3.0), (0, 3.0)] ∧
      ((w.chart .standard trades).bars true).map (fun p => (p.time, p.value)) =
        [(-1800, 6.0), (-900, 3.0), (0, 3.0)] := by
  intro v w trades
  have hwidth : w.bucketWidth = v.bucketWidth := rfl
  have hw : v.bucketSpan (-900) ⊆ w.span :=
    Set.Ico_subset_Icc_self.trans (Set.Icc_subset_Icc (by decide) (by decide))
  have hv : v.bucketSpan (-900) ⊆ v.span :=
    Set.Ico_subset_Icc_self.trans (Set.Icc_subset_Icc (by decide) (by decide))
  exact ⟨hwidth, hw, hv, bars_zoom hwidth hw hv .standard trades true, by decide +kernel,
    by decide +kernel⟩

/-- A bar time is a multiple of the width by a quotient between those of the ends of the window. -/
lemma IsBarTime.exists_quotient (h : v.IsBarTime start) :
    ∃ k ∈ Finset.Icc ((v.now - v.window) / v.bucketWidth) (v.now / v.bucketWidth),
      k * v.bucketWidth = start := by
  have hw : 0 < v.bucketWidth := Window.bucketWidth_pos v.window
  obtain ⟨k, rfl⟩ := h.aligned
  have hafter := h.after
  have hbefore := h.before
  rw [Window.bucketStart_eq _ hw, Int.mul_comm v.bucketWidth] at hafter
  rw [Int.mul_comm] at hbefore
  refine ⟨k, Finset.mem_Icc.2 ⟨?_, ?_⟩, Int.mul_comm _ _⟩
  · exact Int.le_of_mul_le_mul_right hafter hw
  · exact Int.le_ediv_of_mul_le hw hbefore

lemma length_le_of_isBarTime {ps : List ColoredPoint} (hps : ps.Pairwise (·.time < ·.time))
    (h : ∀ p ∈ ps, v.IsBarTime p.time) :
    ps.length ≤ (v.now / v.bucketWidth + 1 - (v.now - v.window) / v.bucketWidth).toNat := by
  let quotients := Finset.Icc ((v.now - v.window) / v.bucketWidth) (v.now / v.bucketWidth)
  have hnodup : (ps.map (·.time)).Nodup := (List.pairwise_map.2 hps).imp Int.ne_of_lt
  have hsubset : (ps.map (·.time)).toFinset ⊆ quotients.image (· * v.bucketWidth) := by
    intro time htime
    obtain ⟨p, hp, rfl⟩ := List.mem_map.1 (List.mem_toFinset.1 htime)
    exact Finset.mem_image.2 (h p hp).exists_quotient
  calc ps.length = (ps.map (·.time)).toFinset.card := by
        rw [List.toFinset_card_of_nodup hnodup, List.length_map]
    _ ≤ (quotients.image (· * v.bucketWidth)).card := Finset.card_le_card hsubset
    _ ≤ quotients.card := Finset.card_image_le
    _ = _ := Int.card_Icc _ _

/-- The buckets of the two ends are no further apart than buckets are needed for the window. -/
lemma quotients_le (v : View) :
    v.now / v.bucketWidth - (v.now - v.window) / v.bucketWidth ≤
      ⌈(v.window : ℚ) / v.bucketWidth⌉ := by
  have hw : 0 < v.bucketWidth := Window.bucketWidth_pos v.window
  have hwindow : v.window ≤ ⌈(v.window : ℚ) / v.bucketWidth⌉ * v.bucketWidth := by
    have hceil := Int.le_ceil ((v.window : ℚ) / v.bucketWidth)
    rw [div_le_iff₀ (by exact_mod_cast hw)] at hceil
    exact_mod_cast hceil
  -- The last bucket starts by `now`, the first one ends after the cutoff.
  have hnow := Int.ediv_mul_le v.now hw.ne'
  have hcutoff := Int.lt_ediv_add_one_mul_self (v.now - v.window) hw
  have hlt : v.now / v.bucketWidth * v.bucketWidth <
      ((v.now - v.window) / v.bucketWidth + 1 + ⌈(v.window : ℚ) / v.bucketWidth⌉) *
        v.bucketWidth := by
    rw [Int.add_mul]
    omega
  have := Int.lt_of_mul_lt_mul_right hlt hw.le
  omega

/-- Widths grow with windows: up to a month no window is longer than 180 of its buckets. -/
lemma window_le_of_le_month (h : v.window ≤ Window.month) : v.window ≤ 180 * v.bucketWidth := by
  unfold Window.month at h
  unfold bucketWidth Window.bucketWidth Window.day Window.week Window.month
  split_ifs <;> omega

/-- A window shows at most one bar of each direction more than buckets fit into it, and at most 181
when it is no longer than a month. -/
theorem length_bars_le (v : View) (palette : Palette) (trades : List Trade) (buying : Bool)
    (h : 0 ≤ v.window) :
    (((v.chart palette trades).bars buying).length : ℤ) ≤ ⌈(v.window : ℚ) / v.bucketWidth⌉ + 1 ∧
      (v.window ≤ Window.month → ((v.chart palette trades).bars buying).length ≤ 181) := by
  have hw : 0 < v.bucketWidth := Window.bucketWidth_pos v.window
  have hlength := length_le_of_isBarTime (v.bars_ascending palette trades buying) fun p hp =>
    (mem_bars.1 hp).isBarTime
  have hquotients := v.quotients_le
  have hends : (v.now - v.window) / v.bucketWidth ≤ v.now / v.bucketWidth :=
    Int.ediv_le_ediv hw (by omega)
  constructor
  · omega
  · intro hmonth
    have hceil : ⌈(v.window : ℚ) / v.bucketWidth⌉ ≤ 180 := by
      rw [Int.ceil_le, div_le_iff₀ (by exact_mod_cast hw)]
      exact_mod_cast window_le_of_le_month hmonth
    omega

/-- A window of one bucket that touches two. -/
theorem length_bars_le_acrossBuckets :
    let v : View := ⟨"0xA", "0xb", 900, 450⟩
    let trades : List Trade := [.exchange 450 "0xa" 2.0 "0xB" 1.0,
      .exchange (-450) "0xa" 8.0 "0xB" 5.0, .exchange (-451) "0xa" 1.0 "0xB" 4.0]
    0 ≤ v.window ∧ ⌈(v.window : ℚ) / v.bucketWidth⌉ + 1 = 2 ∧ v.window ≤ Window.month ∧
      ((v.chart .standard trades).bars true).map (·.time) = [-900, 0] ∧
      (((v.chart .standard trades).bars true).length : ℤ) ≤ ⌈(v.window : ℚ) / v.bucketWidth⌉ + 1 ∧
      ((v.chart .standard trades).bars true).length ≤ 181 := by
  intro v trades
  have hwindow : 0 ≤ v.window := by decide
  have hmonth : v.window ≤ Window.month := by decide
  have hbound := length_bars_le v .standard trades true hwindow
  have hceil : ⌈(v.window : ℚ) / v.bucketWidth⌉ + 1 = 2 := by
    have hone : (v.window : ℚ) / v.bucketWidth = 1 := by
      norm_num [v, bucketWidth, Window.bucketWidth, Window.day]
    rw [hone, Int.ceil_one]
    rfl
  exact ⟨hwindow, hceil, hmonth, by decide +kernel, hbound.1, hbound.2 hmonth⟩

end TradeCharts.View
