import TradeCharts.Proofs.Chart.WellFormed
import TradeCharts.Proofs.Label.Range
import TradeCharts.Proofs.Label.Text

/-!
The labels of bars. Up to a week of window a label leaves out the year, and beyond a day also the
minutes, but neither is missed: bars start whole buckets apart, which no shown clock time repeats,
and the window is far shorter than a year. A fixed offset moves all bars alike, also when it is not
a number of whole buckets.
-/
namespace TradeCharts

namespace Label

open Calendar

variable {window s t : Int}

/-- Clock times that are whole buckets apart are shown differently. -/
lemma eq_of_clock (hweek : window ≤ Window.week) (hdvd : Window.bucketWidth window ∣ t - s)
    (hday : s / daySeconds = t / daySeconds) (h : Alike window (minuteOf s) (minuteOf t)) :
    s = t := by
  have hhour : (s % daySeconds).toNat / 3600 = (t % daySeconds).toNat / 3600 := h.hour
  have hminute := h.minute
  unfold daySeconds at hday hhour
  unfold Window.bucketWidth at hdvd
  unfold shownMinute at hminute
  split_ifs at hdvd with hw
  · rw [if_pos hw, if_pos hw] at hminute
    simp only [minuteOf, daySeconds] at hminute
    omega
  · omega

theorem eq_of_alike (hweek : window ≤ Window.week) (hdvd : Window.bucketWidth window ∣ t - s)
    (hst : t - s < 364 * daySeconds) (hts : s - t < 364 * daySeconds)
    (h : Alike window (minuteOf s) (minuteOf t)) : s = t := by
  refine eq_of_clock hweek hdvd (eq_of_month_day h.month h.day ?_ ?_) h <;>
    unfold daySeconds at * <;> omega

end Label

namespace View

variable {v : View} {s t : Int}

lemma isBarTime_of_mem_volumes {palette : Palette} {trades : List Trade} {p : ColoredPoint}
    (hp : p ∈ (v.chart palette trades).buyVolumes ++ (v.chart palette trades).sellVolumes) :
    v.IsBarTime p.time := by
  have hwell := (v.wellFormed_chart palette trades).2
  obtain hbuy | hsell := List.mem_append.1 hp
  · exact hwell.buy_time p hbuy
  · exact hwell.sell_time p hsell

/-- All bars start within the window, the first one up to a bucket before it. -/
lemma IsBarTime.sub_lt (hs : v.IsBarTime s) (ht : v.IsBarTime t) :
    t - s < v.window + v.bucketWidth := by
  have hfirst := Window.lt_bucketStart_add (v.now - v.window) (Window.bucketWidth_pos v.window)
  have hafter := hs.after
  have hbefore := ht.before
  unfold bucketWidth at *
  omega

lemma window_add_bucketWidth_le (h : v.window ≤ Window.week) :
    v.window + v.bucketWidth ≤ 8 * Calendar.daySeconds := by
  unfold Window.week at h
  unfold bucketWidth Window.bucketWidth Window.day Window.week Calendar.daySeconds
  split_ifs <;> omega

/-- Up to a week of window, and in a zone with one offset, two bars have one label exactly when they
start at one time. -/
theorem bars_label_eq_iff (v : View) (palette : Palette) (trades : List Trade) (offset : Int)
    (hweek : v.window ≤ Window.week) {p q : ColoredPoint} {label other : String}
    (hp : p ∈ (v.chart palette trades).buyVolumes ++ (v.chart palette trades).sellVolumes)
    (hq : q ∈ (v.chart palette trades).buyVolumes ++ (v.chart palette trades).sellVolumes)
    (hlabel : Label.ofSeconds p.time v.window (.fixed offset) = .ok label)
    (hother : Label.ofSeconds q.time v.window (.fixed offset) = .ok other) :
    label = other ↔ p.time = q.time := by
  constructor
  · intro h
    rw [Label.eq_render_of_ofSeconds hlabel, Label.eq_render_of_ofSeconds hother] at h
    have halike := (Label.render_eq_iff hweek (Label.readable_minuteOf _)
      (Label.readable_minuteOf _)).1 h
    have hptime := isBarTime_of_mem_volumes hp
    have hqtime := isBarTime_of_mem_volumes hq
    have hpq := hptime.sub_lt hqtime
    have hqp := hqtime.sub_lt hptime
    have hspan := window_add_bucketWidth_le hweek
    have hdvd : v.bucketWidth ∣ (q.time + offset) - (p.time + offset) := by
      rw [Int.add_sub_add_right]
      exact Int.dvd_sub hqtime.aligned hptime.aligned
    have hlocal : p.time + offset = q.time + offset := by
      refine Label.eq_of_alike hweek hdvd ?_ ?_ halike <;> unfold Calendar.daySeconds at * <;> omega
    omega
  · intro h
    rw [h] at hlabel
    exact Except.ok.inj (hlabel.symm.trans hother)

/-- Bars of two years, an hour apart, in a zone half an hour and some seconds east. -/
theorem bars_label_eq_iff_acrossYears :
    let v : View := ⟨"0xA", "0xb", 604800, 1704070000⟩
    let trades : List Trade := [.exchange 1704067250 "0xa" 2.0 "0xB" 1.0,
      .exchange 1704063605 "0xb" 8.0 "0xA" 4.0, .exchange 1704067260 "0xB" 1.0 "0xa" 1.0]
    let c := v.chart .standard trades
    let bought : ColoredPoint := ⟨1704067200, 2.0, some Palette.standard.buyVolume⟩
    let sold : ColoredPoint := ⟨1704067200, -1.0, some Palette.standard.sellVolume⟩
    let before : ColoredPoint := ⟨1704063600, -4.0, some Palette.standard.sellVolume⟩
    v.window ≤ Window.week ∧ bought ∈ c.buyVolumes ++ c.sellVolumes ∧
      sold ∈ c.buyVolumes ++ c.sellVolumes ∧ before ∈ c.buyVolumes ++ c.sellVolumes ∧
      Label.ofSeconds bought.time v.window (.fixed 1813) = .ok "Jan 1 00:00" ∧
      Label.ofSeconds sold.time v.window (.fixed 1813) = .ok "Jan 1 00:00" ∧
      Label.ofSeconds before.time v.window (.fixed 1813) = .ok "Dec 31 23:00" ∧
      ("Jan 1 00:00" = "Jan 1 00:00" ↔ bought.time = sold.time) ∧
      ("Jan 1 00:00" = "Dec 31 23:00" ↔ bought.time = before.time) := by
  intro v trades c bought sold before
  have hweek : v.window ≤ Window.week := by decide
  have hbought : bought ∈ c.buyVolumes ++ c.sellVolumes := by decide +kernel
  have hsold : sold ∈ c.buyVolumes ++ c.sellVolumes := by decide +kernel
  have hbefore : before ∈ c.buyVolumes ++ c.sellVolumes := by decide +kernel
  have hlater : Label.ofSeconds 1704067200 v.window (.fixed 1813) = .ok "Jan 1 00:00" := by
    decide +kernel
  have hearlier : Label.ofSeconds 1704063600 v.window (.fixed 1813) = .ok "Dec 31 23:00" := by
    decide +kernel
  exact ⟨hweek, hbought, hsold, hbefore, hlater, hlater, hearlier,
    bars_label_eq_iff v .standard trades 1813 hweek hbought hsold hlater hlater,
    bars_label_eq_iff v .standard trades 1813 hweek hbought hbefore hlater hearlier⟩

end View

end TradeCharts
