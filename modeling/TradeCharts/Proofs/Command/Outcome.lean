import Mathlib.Tactic.Common
import TradeCharts.Proofs.Command.Documents
import TradeCharts.Proofs.Command.Settings
import TradeCharts.Proofs.Snapshot.Records
import TradeCharts.Proofs.Trade.Exchange

/-!
How commands end on a snapshot that is loaded: with a document, without trades, or with a command
line that is refused, unless a number is too large for what is asked. Pairs and histories have no
such number; gaps have to be within the doubles, and a chart needs a window within the digit limit
and points of the years 1 to 9999.
-/
namespace TradeCharts

open Text

/-- What a command is to end in. -/
def Answers {α : Type} (r : Except CommandError α) : Prop :=
  (∃ a, r = .ok a) ∨ r = .error .noTrades ∨ ∃ cause, r = .error (.usage cause)

/-- A number that is too large for an action on its trades. -/
def Action.Overflows (c : Context) : Action → Prop
  | .pairs => False
  | .history _ => False
  | .gaps bounds =>
    ∃ gap ∈ Gaps.differences (Gaps.times bounds c.trades), (Binary64.overflowFrom : Int) ≤ gap
  | .chart base quote window now flip => ∃ v, Action.view c base quote window now flip = .ok v ∧
      (¬ isWritable v.window ∨ ∃ time ∈ (v.chart c.settings.palette c.trades).times,
        ¬ Label.HasLabel c.settings.chart.zone.zone time)

lemma answers_ok {α : Type} (a : α) : Answers (.ok a : Except CommandError α) :=
  .inl ⟨a, rfl⟩

lemma not_answers_failed {α : Type} (cause : Failure) :
    ¬ Answers (.error (.failed cause) : Except CommandError α) := by
  rintro (⟨a, h⟩ | h | ⟨c, h⟩) <;> cases h

namespace Format

lemma render_of_fits {d : Document} (h : d.fits) (f : Format) : ∃ text, f.render d = .ok text := by
  cases f with
  | json => exact ⟨_, by rw [render, Document.toJsonText, if_pos h]; rfl⟩
  | yaml => exact ⟨_, by rw [render, Document.toYamlText, if_pos h]; rfl⟩

lemma render_of_not_fits {d : Document} (h : ¬ d.fits) (f : Format) :
    f.render d = .error (.failed (.tooManyDigits .writing)) := by
  cases f with
  | json => rw [render, Document.toJsonText, if_neg h]; rfl
  | yaml => rw [render, Document.toYamlText, if_neg h]; rfl

theorem answers_render_iff (d : Document) (f : Format) : Answers (f.render d) ↔ d.fits := by
  by_cases h : d.fits
  · obtain ⟨text, htext⟩ := render_of_fits h f
    rw [htext]
    exact iff_of_true (answers_ok text) h
  · rw [render_of_not_fits h]
    exact iff_of_false (not_answers_failed _) h

end Format

namespace Action

variable {c : Context} {format : Format}

lemma answers_of_ok {a : Action} {d : Document} (h : a.document c = .ok d) :
    Answers (a.document c >>= format.render) ↔ d.fits := by
  rw [h]
  exact Format.answers_render_iff d format

lemma not_answers_of_failed {a : Action} {cause : Failure}
    (h : a.document c = .error (.failed cause)) :
    ¬ Answers (a.document c >>= format.render) := by
  rw [h]
  exact not_answers_failed cause

lemma addresses_error {base quote : Option String} {flip : Bool} {trades : List Trade}
    {e : CommandError} (h : Report.addresses base quote flip trades = .error e) :
    e = .noTrades ∨ ∃ cause, e = .usage cause := by
  cases base <;> cases quote
  · rw [Report.addresses] at h
    split at h <;> cases h
    exact .inl rfl
  · cases h
    exact .inr ⟨_, rfl⟩
  · cases h
    exact .inr ⟨_, rfl⟩
  · cases h

lemma answers_of_view_error {base quote : Option String} {window now : Option Int} {flip : Bool}
    {e : CommandError} (h : view c base quote window now flip = .error e) :
    Answers ((chart base quote window now flip).document c >>= format.render) := by
  rw [document, h]
  cases haddresses : Report.addresses base quote flip c.trades with
  | ok pair =>
    rw [view, haddresses] at h
    cases h
  | error e' =>
    rw [view, haddresses] at h
    cases h
    rcases addresses_error haddresses with rfl | ⟨cause, rfl⟩
    · exact .inr (.inl rfl)
    · exact .inr (.inr ⟨cause, rfl⟩)

lemma answers_chart_iff {base quote : Option String} {window now : Option Int} {flip : Bool}
    {v : View} (h : view c base quote window now flip = .ok v) :
    Answers ((chart base quote window now flip).document c >>= format.render) ↔
      isWritable v.window ∧ ∀ time ∈ (v.chart c.settings.palette c.trades).times,
        Label.HasLabel c.settings.chart.zone.zone time := by
  have hdocument : (chart base quote window now flip).document c =
      Report.chart c.settings v c.trades := by
    rw [document, h]
    rfl
  by_cases hlabels : ∀ time ∈ (v.chart c.settings.palette c.trades).times,
      Label.HasLabel c.settings.chart.zone.zone time
  · obtain ⟨d, hd, hfit⟩ := Report.chart_of_hasLabel c.settings v c.trades hlabels
    rw [answers_of_ok (hdocument.trans hd), hfit]
    exact (and_iff_left hlabels).symm
  · obtain ⟨cause, hcause⟩ := Report.chart_of_not_hasLabel c.settings v c.trades hlabels
    exact iff_of_false (not_answers_of_failed (hdocument.trans hcause)) fun hall => hlabels hall.2

/-- On the trades of a snapshot that is loaded, an action answers unless a number is too large. -/
theorem answers_iff (a : Action) (format : Format) (hc : Snapshot.Loaded c.trades) :
    Answers (a.document c >>= format.render) ↔ ¬ a.Overflows c := by
  cases a with
  | pairs =>
    rw [answers_of_ok rfl]
    exact iff_of_true (Report.fits_pairs hc.ascending) id
  | history theme =>
    rw [answers_of_ok rfl]
    exact iff_of_true (Report.fits_history hc.writable _) id
  | gaps bounds =>
    have hstats := Gaps.stats?_isSome_iff bounds c.trades
    simp only [Overflows, not_exists, not_and, Int.not_le]
    rw [← hstats]
    cases hs : Gaps.stats? bounds c.trades with
    | some stats =>
      have hd : (gaps bounds).document c = .ok (Report.gaps stats) := by rw [document, hs]
      rw [answers_of_ok hd]
      exact iff_of_true (Report.fits_gaps stats) rfl
    | none =>
      have hd : (gaps bounds).document c = .error (.failed .beyondDoubles) := by rw [document, hs]
      exact iff_of_false (not_answers_of_failed hd) (by simp)
  | chart base quote window now flip =>
    cases hv : view c base quote window now flip with
    | error e =>
      refine iff_of_true (answers_of_view_error hv) ?_
      rintro ⟨v, hv', -⟩
      rw [hv] at hv'
      cases hv'
    | ok v =>
      rw [answers_chart_iff hv]
      constructor
      · rintro ⟨hwindow, hlabels⟩ ⟨v', hv', hover⟩
        rw [hv] at hv'
        cases hv'
        rcases hover with hover | ⟨time, htime, hlabel⟩
        · exact hover hwindow
        · exact hlabel (hlabels time htime)
      · intro h
        by_contra hnot
        refine h ⟨v, hv, ?_⟩
        by_cases hwindow : isWritable v.window
        · simp only [hwindow, true_and, not_forall] at hnot
          obtain ⟨time, htime, hlabel⟩ := hnot
          exact .inr ⟨time, htime, hlabel⟩
        · exact .inl hwindow

end Action

namespace CommandLine

variable {s : Surroundings} {args rest : List String} {options : Options} {verb : Verb}
  {configured : Settings} {c : Command} {ts : List Trade}

lemma loaded_of_trades {path : String} (h : trades s path = .ok ts) : Snapshot.Loaded ts := by
  rw [trades] at h
  cases hload : Snapshot.load s.files s.snapshotDepth (Path.normalize path) with
  | ok us =>
    rw [hload] at h
    cases h
    exact Snapshot.loaded_of_load hload
  | error e =>
    rw [hload] at h
    cases h

/-- A command line that is understood, on a snapshot that is loaded, ends in a document, without
trades or in a refusal exactly when no number is too large for its action. -/
theorem run_answers_iff (hverb : readVerb s.files args = .ok (options, verb, rest))
    (hsettings : settings s (SettingsSource.find? s.files options.settings s.settingsPath?) =
      .ok configured)
    (hcommand : readCommand s.files verb rest = .ok c) (htrades : trades s c.snapshot = .ok ts) :
    ((∃ text, (run s args).outcome = .shown text) ∨ (run s args).outcome = .refused .noTrades ∨
        ∃ cause, (run s args).outcome = .refused (.usage cause)) ↔
      ¬ c.action.Overflows ⟨configured, s.now, ts⟩ := by
  have htext : c.text s configured =
      c.action.document ⟨configured, s.now, ts⟩ >>= c.format.render := by
    rw [Command.text, htrades]
    rfl
  rw [← Action.answers_iff c.action c.format (loaded_of_trades htrades), ← htext]
  cases hc : c.text s configured with
  | ok text =>
    have houtcome : (run s args).outcome = .shown text := by
      simp only [run, hverb, hsettings, runCommand, hcommand, hc]
    rw [houtcome]
    exact iff_of_true (.inl ⟨text, rfl⟩) (answers_ok text)
  | error e =>
    have houtcome : (run s args).outcome = .refused e := by
      simp only [run, hverb, hsettings, runCommand, hcommand, hc]
    rw [houtcome]
    simp [Answers]

/-- A snapshot with one trade, in the first second of the year 10000. -/
def lateText : List Char :=
  "[".toList ++ Snapshot.recordText "253402300800" "a" "b" ++ "]".toList

def lateSurroundings : Surroundings :=
  .ofDirectory [("trades.json", .file (String.ofList lateText).toUTF8)] none

lemma trades_late :
    trades lateSurroundings "trades.json" = .ok [.ofAddresses 253402300800 "a" "b"] := by
  decide +kernel

theorem late_trade_has_pairs :
    (∃ text, (run lateSurroundings ["pairs", "trades.json"]).outcome = .shown text) ∨
      (run lateSurroundings ["pairs", "trades.json"]).outcome = .refused .noTrades ∨
      ∃ cause, (run lateSurroundings ["pairs", "trades.json"]).outcome = .refused (.usage cause) := by
  have hverb : readVerb lateSurroundings.files ["pairs", "trades.json"] =
      .ok (.standard, .pairs, ["trades.json"]) := by decide +kernel
  have hsource : SettingsSource.find? lateSurroundings.files Options.standard.settings
      lateSurroundings.settingsPath? = none := by decide +kernel
  have hcommand : readCommand lateSurroundings.files .pairs ["trades.json"] =
      .ok ⟨.pairs, .json, "trades.json"⟩ := by decide +kernel
  exact (run_answers_iff hverb (settings_of_no_source hsource) hcommand trades_late).2 id

/-- The snapshot is loaded, but its chart has a point in the year 10000 and ends without an
answer. -/
theorem late_trade_has_no_chart :
    trades lateSurroundings "trades.json" = .ok [.ofAddresses 253402300800 "a" "b"] ∧
    ¬ ((∃ text, (run lateSurroundings ["chart", "trades.json", "--now", "253402300800"]).outcome =
        .shown text) ∨
      (run lateSurroundings ["chart", "trades.json", "--now", "253402300800"]).outcome =
        .refused .noTrades ∨
      ∃ cause, (run lateSurroundings ["chart", "trades.json", "--now", "253402300800"]).outcome =
        .refused (.usage cause)) := by
  have houtcome : (run lateSurroundings ["chart", "trades.json", "--now", "253402300800"]).outcome =
      .refused (.failed (.unlabelled (.yearOutOfRange 10000))) := by decide +kernel
  rw [houtcome]
  refine ⟨trades_late, ?_⟩
  rintro (⟨text, h⟩ | h | ⟨cause, h⟩) <;> cases h

end CommandLine

end TradeCharts
