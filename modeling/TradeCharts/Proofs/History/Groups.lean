import Mathlib.Data.List.Induction
import Mathlib.Tactic.Common
import TradeCharts.History
import TradeCharts.Proofs.Timeline.Gather

/-! The samples of an order by time, a timeline gathered from the trades that have a sample, and the
reports on the trades that have none. -/
namespace TradeCharts.History

/-- The samples of the trades that have one, each with its time. -/
def sampled (trades : List Trade) : List (Int × Sample) :=
  trades.filterMap fun t => (sample t).toOption.map (t.timestamp, ·)

theorem groups_samples (trades : List Trade) :
    (groups trades).samples =
      Timeline.gather (·.1) (fun group s => group ++ [s.2]) [] (sampled trades) := by
  induction trades using List.reverseRecOn with
  | nil => rfl
  | append_singleton trades t ih =>
    have hread : groups (trades ++ [t]) = (groups trades).read t := by simp [groups]
    have hsampled : sampled (trades ++ [t]) =
        sampled trades ++ ((sample t).toOption.map (t.timestamp, ·)).toList := by
      rw [sampled, List.filterMap_append, ← sampled]
      cases hs : sample t <;> simp [hs, Except.toOption]
    rw [hread, hsampled, Groups.read]
    cases sample t with
    | error reason => simpa [Except.toOption] using ih
    | ok s => simp [Except.toOption, Timeline.gather_append_singleton, ih]

/-- The reason why a trade has no sample. -/
def skipReason? (t : Trade) : Option SkipReason :=
  match sample t with
  | .error reason => some reason
  | .ok _ => none

/-- The reports on skipped trades, in the order of the trades. -/
def skips (trades : List Trade) : List LogEntry :=
  trades.filterMap fun t => (skipReason? t).map (.skipped t)

theorem groups_skips (trades : List Trade) : (groups trades).skips = (skips trades).reverse := by
  induction trades using List.reverseRecOn with
  | nil => rfl
  | append_singleton trades t ih =>
    have hread : groups (trades ++ [t]) = (groups trades).read t := by simp [groups]
    rw [hread, Groups.read, skips, List.filterMap_append, ← skips]
    cases hs : sample t with
    | error reason => simp [skipReason?, hs, ih]
    | ok s => simp [skipReason?, hs, ih]

/-- Every point of a history stands at the time of a trade. -/
theorem exists_trade_of_mem_points {theme : String} {trades : List Trade} {p : ColoredPoint}
    (hp : p ∈ points theme trades) : ∃ t ∈ trades, t.timestamp = p.time := by
  simp only [points, List.mem_filterMap] at hp
  obtain ⟨⟨time, samples⟩, hentry, hpoint⟩ := hp
  rw [groups_samples, Timeline.mem_entries_gather] at hentry
  obtain ⟨⟨b, hb, htime⟩, -⟩ := hentry
  simp only [sampled, List.mem_filterMap] at hb
  obtain ⟨t, ht, hsample⟩ := hb
  obtain ⟨s, -, rfl⟩ := Option.map_eq_some_iff.1 hsample
  simp only [Option.ite_none_right_eq_some] at hpoint
  obtain ⟨-, hpoint⟩ := hpoint
  cases hpoint
  exact ⟨t, ht, htime⟩

end TradeCharts.History
