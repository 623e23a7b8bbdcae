import Mathlib.Tactic.Common
import TradeCharts.Command.Report
import TradeCharts.Proofs.Gaps
import TradeCharts.Proofs.History.Groups
import TradeCharts.Proofs.Label.Range
import TradeCharts.Proofs.Pair.Default
import TradeCharts.Proofs.Snapshot.Times

/-! Which documents commands can show: a document has a text when its whole numbers are within the
digit limit, and a chart is one when its moments have labels. -/
namespace TradeCharts

open Text

namespace Document

lemma itemsFit_iff (items : List Document) : itemsFit items ↔ ∀ d ∈ items, d.fits := by
  induction items with
  | nil => simp [itemsFit]
  | cons d items ih => simp [itemsFit, ih]

lemma fieldsFit_iff (fields : List (String × Document)) :
    fieldsFit fields ↔ ∀ f ∈ fields, f.2.fits := by
  induction fields with
  | nil => simp [fieldsFit]
  | cons f fields ih => simp [fieldsFit, ih]

lemma fits_list (items : List Document) : (list items).fits ↔ ∀ d ∈ items, d.fits := by
  rw [fits, itemsFit_iff]

lemma fits_record (fields : List (String × Document)) :
    (record fields).fits ↔ ∀ f ∈ fields, f.2.fits := by
  rw [fits, fieldsFit_iff]

lemma fits_integer (n : Int) : (integer n).fits ↔ isWritable n := by
  rw [fits]

@[simp] lemma fits_text (s : String) : (text s).fits := rfl

@[simp] lemma fits_number (x : Float) : (number x).fits := rfl

end Document

def PairChart.times (c : PairChart) : List Int :=
  c.prices.map (·.time) ++ c.buyVolumes.map (·.time) ++ c.sellVolumes.map (·.time)

namespace Report

open Document

lemma fits_pair (p : Pair) : p.toDocument.fits := by
  simp [Pair.toDocument, Token.toDocument, fits_record]

theorem fits_pairs {trades : List Trade}
    (h : trades.Pairwise fun t u => t.timestamp ≤ u.timestamp) : (pairs trades).fits := by
  have hindex : (ofPlace ((defaultPair? trades).bind (·.indexIn? (tradedPairs trades)))).fits := by
    rw [indexIn?_default_of_ascending h]
    cases trades with
    | nil => exact (fits_integer (-1)).2 (isWritable_of_lt 1 (by decide) (by decide))
    | cons t trades => exact (fits_integer 0).2 (isWritable_of_lt 1 (by decide) (by decide))
  simp only [pairs, fits_record, fits_list, List.mem_cons, List.not_mem_nil, or_false,
    forall_eq_or_imp, forall_eq, List.forall_mem_map]
  exact ⟨fun p _ => fits_pair p, hindex⟩

theorem fits_history {trades : List Trade} (h : ∀ t ∈ trades, isWritable t.timestamp)
    (theme : Theme) : (history theme trades).fits := by
  simp only [history, fits_list, List.forall_mem_map]
  intro p hp
  obtain ⟨t, ht, htime⟩ := History.exists_trade_of_mem_points hp
  have hw := h t ht
  rw [htime] at hw
  cases hc : p.color <;> simp [ColoredPoint.toFields, fits_record, fits_integer, hw, hc]

lemma fits_gaps (s : GapStats) : (gaps s).fits := by
  simp [gaps, fits_record]

def labelledPoint (window : Int) (zone : Zone) (p : Int × List (String × Document)) :
    Except CommandError Document :=
  match Label.ofSeconds p.1 window zone with
  | .ok label => .ok (.record (p.2 ++ [("label", .text label)]))
  | .error cause => .error (.failed (.unlabelled cause))

lemma labelled_eq (window : Int) (zone : Zone) (points : List (Int × List (String × Document))) :
    labelled window zone points = do
      return .list (← points.mapM (labelledPoint window zone)) := rfl

variable (window : Int) {zone : Zone} {p : Int × List (String × Document)}

lemma labelledPoint_of_hasLabel (h : Label.HasLabel zone p.1) :
    ∃ d, labelledPoint window zone p = .ok d ∧ (d.fits ↔ fieldsFit p.2) := by
  obtain ⟨label, hlabel⟩ := (Label.ofSeconds_eq_ok_iff p.1 window zone).2 h
  refine ⟨.record (p.2 ++ [("label", .text label)]), by rw [labelledPoint, hlabel], ?_⟩
  rw [fits_record, fieldsFit_iff, List.forall_mem_append, List.forall_mem_singleton]
  exact and_iff_left (fits_text label)

lemma labelledPoint_of_not_hasLabel (h : ¬ Label.HasLabel zone p.1) :
    ∃ cause, labelledPoint window zone p = .error (.failed cause) := by
  rw [← Label.ofSeconds_eq_ok_iff p.1 window zone] at h
  rw [labelledPoint]
  cases hlabel : Label.ofSeconds p.1 window zone with
  | ok label => exact absurd ⟨label, hlabel⟩ h
  | error cause => exact ⟨.unlabelled cause, rfl⟩

theorem labelled_of_hasLabel {points : List (Int × List (String × Document))}
    (h : ∀ p ∈ points, Label.HasLabel zone p.1) :
    ∃ d, labelled window zone points = .ok d ∧ (d.fits ↔ ∀ p ∈ points, fieldsFit p.2) := by
  suffices hs : ∃ items, points.mapM (labelledPoint window zone) = .ok items ∧
      (itemsFit items ↔ ∀ p ∈ points, fieldsFit p.2) by
    obtain ⟨items, hitems, hfit⟩ := hs
    exact ⟨.list items, by rw [labelled_eq, hitems]; rfl, hfit⟩
  induction points with
  | nil => exact ⟨[], rfl, by simp [itemsFit]⟩
  | cons p points ih =>
    obtain ⟨hp, hpoints⟩ := List.forall_mem_cons.1 h
    obtain ⟨d, hd, hdfit⟩ := labelledPoint_of_hasLabel window hp
    obtain ⟨items, hitems, hfit⟩ := ih hpoints
    refine ⟨d :: items, by rw [List.mapM_cons, hd, hitems]; rfl, ?_⟩
    rw [itemsFit, Bool.and_eq_true, hdfit, hfit, List.forall_mem_cons]

theorem labelled_of_not_hasLabel {points : List (Int × List (String × Document))}
    (h : ¬ ∀ p ∈ points, Label.HasLabel zone p.1) :
    ∃ cause, labelled window zone points = .error (.failed cause) := by
  suffices hs : ∃ cause, points.mapM (labelledPoint window zone) = .error (.failed cause) by
    obtain ⟨cause, hcause⟩ := hs
    exact ⟨cause, by rw [labelled_eq, hcause]; rfl⟩
  induction points with
  | nil => simp at h
  | cons p points ih =>
    rw [List.mapM_cons]
    by_cases hp : Label.HasLabel zone p.1
    · obtain ⟨d, hd, -⟩ := labelledPoint_of_hasLabel window hp
      obtain ⟨cause, hcause⟩ := ih fun hpoints => h (List.forall_mem_cons.2 ⟨hp, hpoints⟩)
      exact ⟨cause, by rw [hd, hcause]; rfl⟩
    · obtain ⟨cause, hcause⟩ := labelledPoint_of_not_hasLabel window hp
      exact ⟨cause, by rw [hcause]; rfl⟩

lemma isWritable_of_hasLabel {seconds : Int} (h : Label.HasLabel zone seconds) :
    isWritable seconds := by
  obtain ⟨⟨hfirst, hlast⟩, -⟩ := h
  unfold Calendar.firstSecond at hfirst
  unfold Calendar.lastSecond at hlast
  refine isWritable_of_lt 12 ?_ (by decide)
  rw [show tenTo 12 = 1000000000000 from rfl]
  omega

lemma fieldsFit_price {p : PricePoint} (h : isWritable p.time) : fieldsFit p.toFields := by
  simp [PricePoint.toFields, fieldsFit_iff, fits_integer, h]

lemma fieldsFit_colored {p : ColoredPoint} (h : isWritable p.time) : fieldsFit p.toFields := by
  cases hc : p.color <;> simp [ColoredPoint.toFields, fieldsFit_iff, fits_integer, h, hc]

lemma isWritable_bucketWidth (window : Int) : isWritable (Window.bucketWidth window) := by
  refine isWritable_of_lt 5 ?_ (by decide)
  unfold Window.bucketWidth
  split_ifs <;> decide

/-- Points that all have labels make a document. -/
lemma labelled_map {α : Type} {points : List α} {time : α → Int}
    {fields : α → List (String × Document)} (h : ∀ p ∈ points, Label.HasLabel zone (time p))
    (hfields : ∀ p ∈ points, isWritable (time p) → fieldsFit (fields p)) :
    ∃ d, labelled window zone (points.map fun p => (time p, fields p)) = .ok d ∧ d.fits := by
  have hmap : ∀ q ∈ points.map fun p => (time p, fields p), Label.HasLabel zone q.1 :=
    List.forall_mem_map.2 h
  obtain ⟨d, hd, hfit⟩ := labelled_of_hasLabel window hmap
  refine ⟨d, hd, hfit.2 (List.forall_mem_map.2 fun p hp => ?_)⟩
  exact hfields p hp (isWritable_of_hasLabel (h p hp))

lemma labelled_map_error {α : Type} {points : List α} {time : α → Int}
    (h : ¬ ∀ p ∈ points, Label.HasLabel zone (time p)) (fields : α → List (String × Document)) :
    ∃ cause, labelled window zone (points.map fun p => (time p, fields p)) =
      .error (.failed cause) :=
  labelled_of_not_hasLabel window fun hmap => h fun p hp =>
    hmap (time p, fields p) (List.mem_map.2 ⟨p, hp, rfl⟩)

theorem forall_mem_times {c : PairChart} {p : Int → Prop} :
    (∀ time ∈ c.times, p time) ↔ (∀ x ∈ c.prices, p x.time) ∧ (∀ x ∈ c.buyVolumes, p x.time) ∧
      ∀ x ∈ c.sellVolumes, p x.time := by
  simp only [PairChart.times, List.forall_mem_append, List.forall_mem_map, and_assoc]

variable (settings : Settings) (view : View) (trades : List Trade)

theorem chart_of_hasLabel (h : ∀ time ∈ (view.chart settings.palette trades).times,
      Label.HasLabel settings.chart.zone.zone time) :
    ∃ d, chart settings view trades = .ok d ∧ (d.fits ↔ isWritable view.window) := by
  obtain ⟨hprices, hbuys, hsells⟩ := forall_mem_times.1 h
  obtain ⟨prices, hp, hpfit⟩ := labelled_map view.window hprices fun p _ => fieldsFit_price
  obtain ⟨buys, hb, hbfit⟩ := labelled_map view.window hbuys fun p _ => fieldsFit_colored
  obtain ⟨sells, hs, hsfit⟩ := labelled_map view.window hsells fun p _ => fieldsFit_colored
  refine ⟨_, by simp only [chart]; rw [hp, hb, hs]; rfl, ?_⟩
  simp [fits_record, fits_integer, hpfit, hbfit, hsfit, View.bucketWidth, isWritable_bucketWidth]

theorem chart_of_not_hasLabel (h : ¬ ∀ time ∈ (view.chart settings.palette trades).times,
      Label.HasLabel settings.chart.zone.zone time) :
    ∃ cause, chart settings view trades = .error (.failed cause) := by
  simp only [chart]
  rw [forall_mem_times] at h
  by_cases hprices : ∀ x ∈ (view.chart settings.palette trades).prices,
      Label.HasLabel settings.chart.zone.zone x.time
  · obtain ⟨prices, hp, -⟩ := labelled_map view.window hprices fun p _ => fieldsFit_price
    rw [hp]
    by_cases hbuys : ∀ x ∈ (view.chart settings.palette trades).buyVolumes,
        Label.HasLabel settings.chart.zone.zone x.time
    · obtain ⟨buys, hb, -⟩ := labelled_map view.window hbuys fun p _ => fieldsFit_colored
      have hsells : ¬ ∀ x ∈ (view.chart settings.palette trades).sellVolumes,
          Label.HasLabel settings.chart.zone.zone x.time := fun hs => h ⟨hprices, hbuys, hs⟩
      obtain ⟨cause, hcause⟩ := labelled_map_error view.window hsells ColoredPoint.toFields
      exact ⟨cause, by rw [hb, hcause]; rfl⟩
    · obtain ⟨cause, hcause⟩ := labelled_map_error view.window hbuys ColoredPoint.toFields
      exact ⟨cause, by rw [hcause]; rfl⟩
  · obtain ⟨cause, hcause⟩ := labelled_map_error view.window hprices PricePoint.toFields
    exact ⟨cause, by rw [hcause]; rfl⟩

end Report

end TradeCharts
