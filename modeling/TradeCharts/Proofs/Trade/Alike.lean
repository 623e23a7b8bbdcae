import Mathlib.Data.List.Forall2
import TradeCharts.Proofs.Chart.Verdict
import TradeCharts.Proofs.History.Groups

/-!
What charts and histories read of a trade: its name in messages, its time, the keys of its tokens and
the magnitudes of its amounts. Trades that agree in these are alike. Replacing each trade of a list by
one that is alike changes no chart, no history and no report, and the same trades are skipped.
-/
namespace TradeCharts

/-- Two trades that charts and histories do not tell apart. -/
structure Trade.Alike (t u : Trade) : Prop where
  name : t.displayName = u.displayName
  time : t.timestamp = u.timestamp
  inputKey : t.inputKey = u.inputKey
  outputKey : t.outputKey = u.outputKey
  inputAmount : t.inputAmount? = u.inputAmount?
  outputAmount : t.outputAmount? = u.outputAmount?

/-- Two views of one pair over one window, each with its own spelling of the addresses. -/
structure View.Alike (v w : View) : Prop where
  base : Text.lower v.base = Text.lower w.base
  quote : Text.lower v.quote = Text.lower w.quote
  window : v.window = w.window
  now : v.now = w.now

lemma View.Alike.refl (v : View) : v.Alike v :=
  ⟨rfl, rfl, rfl, rfl⟩

section Lists

variable {α β γ : Type} {R : α → β → Prop} {l : List α} {m : List β}

lemma map_congr_of_forall₂ (h : List.Forall₂ R l m) {f : α → γ} {g : β → γ}
    (hfg : ∀ ⦃a b⦄, R a b → f a = g b) : l.map f = m.map g := by
  have hmap : List.Forall₂ Eq (l.map f) (m.map g) := List.rel_map hfg h
  rwa [List.forall₂_eq_eq_eq] at hmap

lemma filterMap_congr_of_forall₂ (h : List.Forall₂ R l m) {f : α → Option γ} {g : β → Option γ}
    (hfg : ∀ ⦃a b⦄, R a b → f a = g b) : l.filterMap f = m.filterMap g := by
  induction h with
  | nil => rfl
  | cons hab _ ih => rw [List.filterMap_cons, List.filterMap_cons, hfg hab, ih]

end Lists

variable {v w : View} {t u : Trade} {trades trades' : List Trade}

namespace Trade.Alike

lemma admits (h : t.Alike u) (hv : v.Alike w) : v.admits t = w.admits u := by
  unfold View.admits Trade.matches
  rw [h.time, h.inputKey, h.outputKey, hv.base, hv.quote, hv.window, hv.now]

lemma execution? (h : t.Alike u) (hv : v.Alike w) : t.execution? v.base = u.execution? w.base := by
  unfold Trade.execution? Trade.buys
  rw [h.time, h.inputKey, h.inputAmount, h.outputAmount, hv.base]

lemma verdict (h : t.Alike u) (hv : v.Alike w) : v.verdict t = w.verdict u := by
  unfold View.verdict
  rw [h.admits hv, h.execution? hv]

lemma sample (h : t.Alike u) : History.sample t = History.sample u := by
  unfold History.sample
  rw [h.inputAmount, h.outputAmount]

lemma line_skipped (h : t.Alike u) (reason : SkipReason) :
    (LogEntry.skipped t reason).line = (LogEntry.skipped u reason).line := by
  unfold LogEntry.line LogEntry.message
  dsimp only
  rw [h.name]
  rfl

end Trade.Alike

/-- Trades that are alike one by one. -/
def AllAlike (trades trades' : List Trade) : Prop :=
  List.Forall₂ Trade.Alike trades trades'

namespace AllAlike

lemma map_verdict (h : AllAlike trades trades') (hv : v.Alike w) :
    trades.map v.verdict = trades'.map w.verdict :=
  map_congr_of_forall₂ h fun _ _ htu => htu.verdict hv

theorem places (h : AllAlike trades trades') (hv : v.Alike w) :
    v.places trades = w.places trades' := by
  rw [View.places_eq, View.places_eq, h.map_verdict hv]

theorem chart (h : AllAlike trades trades') (hv : v.Alike w) (palette : Palette) :
    v.chart palette trades = w.chart palette trades' := by
  refine View.chart_congr (h.map_verdict hv) ?_
  rw [View.bucketWidth, View.bucketWidth, hv.window]

/-- Reports name trades by what is alike in them. -/
theorem chart_log (h : AllAlike trades trades') (v : View) :
    (v.log trades).map LogEntry.line = (v.log trades').map LogEntry.line := by
  have hskips : (v.skips trades).map LogEntry.line = (v.skips trades').map LogEntry.line := by
    rw [View.skips, View.skips, List.map_filterMap, List.map_filterMap]
    refine filterMap_congr_of_forall₂ h fun t u htu => ?_
    rw [htu.verdict (.refl v), Option.map_map, Option.map_map]
    exact Option.map_congr fun reason _ => htu.line_skipped reason
  have hsummary := View.summary_congr (h.map_verdict (.refl v))
  rw [View.log_eq, View.log_eq, List.map_append, List.map_append, hskips, hsummary]

lemma samples_groups (h : AllAlike trades trades') :
    (History.groups trades).samples = (History.groups trades').samples := by
  have hsampled : History.sampled trades = History.sampled trades' := by
    refine filterMap_congr_of_forall₂ h fun t u htu => ?_
    rw [htu.sample, htu.time]
  rw [History.groups_samples, History.groups_samples, hsampled]

theorem history (h : AllAlike trades trades') (theme : String) :
    History.points theme trades = History.points theme trades' := by
  rw [History.points, History.points, h.samples_groups]

theorem history_log (h : AllAlike trades trades') :
    (History.log trades).map LogEntry.line = (History.log trades').map LogEntry.line := by
  have hskips : (History.skips trades).map LogEntry.line =
      (History.skips trades').map LogEntry.line := by
    rw [History.skips, History.skips, List.map_filterMap, List.map_filterMap]
    refine filterMap_congr_of_forall₂ h fun t u htu => ?_
    rw [History.skipReason?, History.skipReason?, htu.sample, Option.map_map, Option.map_map]
    exact Option.map_congr fun reason _ => htu.line_skipped reason
  simp only [History.log, History.groups_skips, List.reverse_reverse, List.map_append, hskips,
    h.samples_groups]

end AllAlike

end TradeCharts
