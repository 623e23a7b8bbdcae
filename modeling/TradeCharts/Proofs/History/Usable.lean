import TradeCharts.Proofs.Chart.Totals
import TradeCharts.Proofs.History.Groups

/-!
The trades that a history is drawn from, described one by one: which trades are usable, and the ratio
and weight of each. The samples of a moment are those of its usable trades, in their order
(`mem_entries_groups`).
-/
namespace TradeCharts

namespace Trade

def inputMagnitude (t : Trade) : Float :=
  t.inputAmount?.getD 0.0

def outputMagnitude (t : Trade) : Float :=
  t.outputAmount?.getD 0.0

def ratio (t : Trade) : Float :=
  t.inputMagnitude / t.outputMagnitude

end Trade

namespace History

/-- A trade that counts in a history: both amounts are finite numbers, the one on the output side is
not zero, and the ratio of the two is finite. -/
structure Usable (t : Trade) : Prop where
  input : t.inputAmount?.isSome
  output : t.outputAmount?.isSome
  nonzero : (t.outputMagnitude == 0.0) = false
  finite : t.ratio.isFinite

theorem usable_iff (t : Trade) :
    Usable t ↔ t.inputAmount?.isSome ∧ t.outputAmount?.isSome ∧
      (t.outputMagnitude == 0.0) = false ∧ t.ratio.isFinite := by
  constructor
  · intro h
    exact ⟨h.input, h.output, h.nonzero, h.finite⟩
  · rintro ⟨hi, ho, hz, hf⟩
    exact ⟨hi, ho, hz, hf⟩

instance : DecidablePred Usable := fun t =>
  decidable_of_iff _ (usable_iff t).symm

def usable (trades : List Trade) : List Trade :=
  trades.filter (Usable ·)

def reading (t : Trade) : Sample :=
  ⟨t.ratio, t.outputMagnitude⟩

variable {theme : String} {trades : List Trade} {t : Trade}

lemma mem_usable : t ∈ usable trades ↔ t ∈ trades ∧ Usable t := by
  rw [usable, List.mem_filter, decide_eq_true_eq]

lemma sample_of_usable (h : Usable t) : sample t = .ok (reading t) := by
  obtain ⟨i, hi⟩ := Option.isSome_iff_exists.1 h.input
  obtain ⟨o, ho⟩ := Option.isSome_iff_exists.1 h.output
  have hz := h.nonzero
  have hf := h.finite
  simp only [Trade.ratio, Trade.inputMagnitude, Trade.outputMagnitude, hi, ho,
    Option.getD_some] at hz hf
  simp [sample, reading, Trade.ratio, Trade.inputMagnitude, Trade.outputMagnitude, hi, ho, hz, hf]

lemma sample_of_not_usable (h : ¬ Usable t) : ∃ reason, sample t = .error reason := by
  rw [usable_iff] at h
  unfold sample
  cases hi : t.inputAmount? with
  | none => exact ⟨_, rfl⟩
  | some i =>
    cases ho : t.outputAmount? with
    | none => exact ⟨_, rfl⟩
    | some o =>
      by_cases hz : (o == 0.0) = true
      · exact ⟨_, if_pos hz⟩
      · have hf : ¬ (i / o).isFinite := by
          intro hf
          apply h
          simp [Trade.ratio, Trade.inputMagnitude, Trade.outputMagnitude, hi, ho, hz, hf]
        exact ⟨.nonFiniteRatio, by simp [hz, hf]⟩

lemma toOption_sample (t : Trade) :
    (sample t).toOption = if Usable t then some (reading t) else none := by
  split_ifs with h
  · rw [sample_of_usable h]
    rfl
  · obtain ⟨reason, hs⟩ := sample_of_not_usable h
    rw [hs]
    rfl

theorem sampled_eq (trades : List Trade) :
    sampled trades = (usable trades).map fun t => (t.timestamp, reading t) := by
  induction trades with
  | nil => rfl
  | cons t rest ih =>
    unfold usable at ih ⊢
    by_cases h : Usable t
    · rw [List.filter_cons_of_pos (by simpa using h), List.map_cons, ← ih]
      simp [sampled, toOption_sample, h]
    · rw [List.filter_cons_of_neg (by simpa using h), ← ih]
      simp [sampled, toOption_sample, h]

/-- The samples of each moment are those of its usable trades, in their order. -/
theorem groups_samples_eq (trades : List Trade) :
    (groups trades).samples =
      .gather Trade.timestamp (fun group t => group ++ [reading t]) [] (usable trades) := by
  rw [groups_samples, sampled_eq, Timeline.gather, List.foldl_map]
  rfl

lemma foldl_append_reading (ts : List Trade) :
    ts.foldl (fun group t => group ++ [reading t]) [] = ts.map reading := by
  induction ts using List.reverseRecOn with
  | nil => rfl
  | append_singleton ts t ih => simp [ih]

lemma mem_entries_groups {time : Int} {samples : List Sample} :
    (time, samples) ∈ (groups trades).samples.entries ↔
      (∃ t ∈ usable trades, t.timestamp = time) ∧
        samples = ((usable trades).filter (·.timestamp = time)).map reading := by
  rw [groups_samples_eq, Timeline.mem_entries_gather, foldl_append_reading]
  rfl

theorem Usable.zero_lt_outputMagnitude (h : Usable t) : 0.0 < t.outputMagnitude := by
  have hle : 0.0 ≤ t.outputMagnitude := t.output.formattedAmount.isMagnitude.zero_le
  exact Binary64.zero_lt_of_beq_eq_false hle h.nonzero

def point? (theme : String) (entry : Int × List Sample) : Option ColoredPoint :=
  if (merge entry.2).isFinite then some ⟨entry.1, merge entry.2, some (historyColor theme)⟩ else none

lemma points_eq (theme : String) (trades : List Trade) :
    points theme trades = (groups trades).samples.entries.filterMap (point? theme) := rfl

lemma point?_eq_some {entry : Int × List Sample} {p : ColoredPoint} :
    point? theme entry = some p ↔ p.time = entry.1 ∧ (merge entry.2).isFinite ∧
      p.value = merge entry.2 ∧ p.color = some (historyColor theme) := by
  unfold point?
  constructor
  · intro h
    obtain ⟨hf, he⟩ := Option.ite_none_right_eq_some.1 h
    cases he
    exact ⟨rfl, hf, rfl, rfl⟩
  · rintro ⟨ht, hf, hv, hc⟩
    rw [if_pos hf, ← ht, ← hv, ← hc]

end History

end TradeCharts
