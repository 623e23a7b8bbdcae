import Mathlib.Data.List.Induction
import Mathlib.Tactic.Common
import TradeCharts.Chart

/-!
What a view makes of each trade. A trade outside the view has no verdict; any other is executed or
skipped for a reason. The sums of a run are those of the executions, and its reports are the skips in
the order of the trades (`sums_eq`), so a chart is determined by the verdicts (`chart_congr`).
-/
namespace TradeCharts.View

def verdict (v : View) (t : Trade) : Option (Except SkipReason Execution) :=
  if v.admits t then
    match t.execution? v.base with
    | none => some (.error .nonNumericAmount)
    | some e => if e.baseAmount == 0.0 then some (.error .zeroBaseAmount) else some (.ok e)
  else none

def executed? : Option (Except SkipReason Execution) → Option Execution
  | some (.ok e) => some e
  | _ => none

def skipReason? : Option (Except SkipReason Execution) → Option SkipReason
  | some (.error reason) => some reason
  | _ => none

def executions (v : View) (trades : List Trade) : List Execution :=
  (trades.map v.verdict).filterMap executed?

def skips (v : View) (trades : List Trade) : List LogEntry :=
  trades.filterMap fun t => (skipReason? (v.verdict t)).map (.skipped t)

def totals (v : View) (es : List Execution) : ChartSums :=
  es.foldl (fun s e => s.add v.bucketWidth e) .empty

variable {v w : View} {palette : Palette} {trades trades' : List Trade}

theorem sums_append_singleton (v : View) (trades : List Trade) (t : Trade) :
    v.sums (trades ++ [t]) =
      if v.admits t then (v.sums trades).read v.base v.bucketWidth t else v.sums trades := by
  by_cases h : v.admits t <;> simp [sums, View.trades, h]

/-- Reading one more trade does what its verdict says. -/
lemma sums_append_verdict (v : View) (trades : List Trade) (t : Trade) :
    v.sums (trades ++ [t]) =
      match v.verdict t with
      | none => v.sums trades
      | some (.error reason) => (v.sums trades).skip t reason
      | some (.ok e) => (v.sums trades).add v.bucketWidth e := by
  rw [sums_append_singleton, verdict]
  by_cases ha : v.admits t
  · rw [if_pos ha, if_pos ha, ChartSums.read]
    cases t.execution? v.base with
    | none => rfl
    | some e =>
      dsimp only
      split_ifs <;> rfl
  · rw [if_neg ha, if_neg ha]

lemma executions_append_singleton (v : View) (trades : List Trade) (t : Trade) :
    v.executions (trades ++ [t]) =
      v.executions trades ++ (executed? (v.verdict t)).toList := by
  rw [executions, List.map_append, List.filterMap_append, ← executions]
  cases h : executed? (v.verdict t) <;> simp [h]

lemma skips_append_singleton (v : View) (trades : List Trade) (t : Trade) :
    v.skips (trades ++ [t]) =
      v.skips trades ++ ((skipReason? (v.verdict t)).map (LogEntry.skipped t)).toList := by
  rw [skips, List.filterMap_append, ← skips]
  cases h : skipReason? (v.verdict t) <;> simp [h]

lemma totals_append_singleton (v : View) (es : List Execution) (e : Execution) :
    v.totals (es ++ [e]) = (v.totals es).add v.bucketWidth e := by
  simp [totals]

/-- A run adds up its executions and reports its skips. -/
theorem sums_eq (v : View) (trades : List Trade) :
    v.sums trades =
      { v.totals (v.executions trades) with skips := (v.skips trades).reverse } := by
  induction trades using List.reverseRecOn with
  | nil => rfl
  | append_singleton trades t ih =>
    rw [sums_append_verdict, executions_append_singleton, skips_append_singleton, ih]
    cases v.verdict t with
    | none => simp [executed?, skipReason?]
    | some r =>
      cases r with
      | error reason => simp [executed?, skipReason?, ChartSums.skip]
      | ok e =>
        simp only [executed?, skipReason?, Option.toList, Option.map_none, List.append_nil,
          totals_append_singleton]
        rfl

theorem log_eq (v : View) (trades : List Trade) :
    v.log trades = v.skips trades ++ [.pairSummary (v.summary trades)] := by
  rw [log, sums_eq]
  simp

/-- Equal verdicts give equal charts, also of different views with buckets of one width. -/
theorem chart_congr (h : trades.map v.verdict = trades'.map w.verdict)
    (hwidth : v.bucketWidth = w.bucketWidth) :
    v.chart palette trades = w.chart palette trades' := by
  have htotals : v.totals (v.executions trades) = w.totals (w.executions trades') := by
    simp only [executions, totals, h, hwidth]
  simp only [chart, sums_eq, htotals]
  rfl

lemma isSome_verdict (v : View) (t : Trade) : (v.verdict t).isSome = v.admits t := by
  unfold verdict
  split_ifs with ha
  · cases t.execution? v.base with
    | none => simp [ha]
    | some e =>
      dsimp only
      split_ifs <;> simp [ha]
  · simpa using ha

/-- The admitted trades are those with a verdict. -/
theorem places_eq (v : View) (trades : List Trade) :
    v.places trades = ((trades.map v.verdict).zipIdx.filter (·.1.isSome)).map (·.2) := by
  simp [places, List.zipIdx_map, List.filter_map, Function.comp_def, isSome_verdict]

lemma length_trades (v : View) (trades : List Trade) :
    (v.trades trades).length = (trades.map v.verdict).countP Option.isSome := by
  have h : Option.isSome ∘ v.verdict = v.admits := funext v.isSome_verdict
  rw [List.countP_map, h, List.countP_eq_length_filter, View.trades]

lemma length_skips (v : View) (trades : List Trade) :
    (v.skips trades).length = ((trades.map v.verdict).filterMap skipReason?).length := by
  induction trades with
  | nil => rfl
  | cons t trades ih =>
    unfold skips at ih ⊢
    cases h : skipReason? (v.verdict t) <;> simp [h, ih]

theorem summary_congr (h : trades.map v.verdict = trades'.map v.verdict) :
    v.summary trades = v.summary trades' := by
  have hlength : trades.length = trades'.length := by simpa using congrArg List.length h
  have hexecutions : v.executions trades = v.executions trades' := by
    rw [executions, executions, h]
  have hskips : (v.skips trades).length = (v.skips trades').length := by
    rw [length_skips, length_skips, h]
  simp only [summary, length_trades, h, sums_eq, hexecutions, hlength, List.length_reverse, hskips]
  rfl

end TradeCharts.View
