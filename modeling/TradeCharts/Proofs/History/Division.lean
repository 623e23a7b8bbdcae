import TradeCharts.Proofs.Chart.Division
import TradeCharts.Proofs.History.Usable

/-!
A history is drawn without dividing by zero. The checked functions below do the work of the history
but stop at a division whose divisor is zero; they divide inputs by outputs, and weighted sums by sums
of weights. The checked history never stops (`checkedPoints_eq`).
-/
namespace TradeCharts.History

variable {theme : String} {trades : List Trade}

/-- The sample of a trade, none when reading it divides by zero. -/
def checkedSample (t : Trade) : Option (Except SkipReason Sample) :=
  match t.inputAmount?, t.outputAmount? with
  | some i, some o =>
    if o == 0.0 then some (.error .unusableAmounts)
    else (quotient? i o).map fun ratio =>
      if ratio.isFinite then .ok ⟨ratio, o⟩ else .error .nonFiniteRatio
  | _, _ => some (.error .unusableAmounts)

/-- The ratio of the samples of one moment, none when merging them divides by zero. -/
def checkedMerge : List Sample → Option Float
  | [s] => some s.ratio
  | samples =>
    quotient? (sum (samples.map fun s => s.ratio * s.weight)) (sum (samples.map (·.weight)))

/-- Reads one trade, none when that divides by zero. -/
def Groups.checkedRead (g : Groups) (t : Trade) : Option Groups :=
  (checkedSample t).map fun
    | .error reason => { g with skips := .skipped t reason :: g.skips }
    | .ok s => { g with samples := g.samples.update t.timestamp fun group? => group?.getD [] ++ [s] }

/-- The point of a moment, none when working it out divides by zero. -/
def checkedPoint (theme : String) (entry : Int × List Sample) : Option (Option ColoredPoint) :=
  (checkedMerge entry.2).map fun value =>
    if value.isFinite then some ⟨entry.1, value, some (historyColor theme)⟩ else none

/-- The points of the history, none when drawing it divides by zero. -/
def checkedPoints (theme : String) (trades : List Trade) : Option (List ColoredPoint) := do
  let g ← trades.foldlM Groups.checkedRead ⟨.empty, []⟩
  let points ← g.samples.entries.mapM (checkedPoint theme)
  some points.reduceOption

lemma quotient?_eq_some {x y : Float} (h : (y == 0.0) = false) : quotient? x y = some (x / y) := by
  simp [quotient?, h]

lemma checkedSample_eq (t : Trade) : checkedSample t = some (sample t) := by
  unfold checkedSample sample
  cases t.inputAmount? with
  | none => rfl
  | some i =>
    cases t.outputAmount? with
    | none => rfl
    | some o =>
      by_cases hz : (o == 0.0) = true
      · simp [hz]
      · have hq : quotient? i o = some (i / o) := quotient?_eq_some (Bool.eq_false_iff.2 hz)
        simp [hz, hq]

lemma checkedGroups_eq (trades : List Trade) :
    trades.foldlM Groups.checkedRead ⟨.empty, []⟩ = some (groups trades) := by
  have hread : Groups.checkedRead = fun g t => some (g.read t) := by
    funext g t
    rw [Groups.checkedRead, checkedSample_eq, Groups.read]
    cases sample t <;> rfl
  rw [hread]
  exact List.foldlM_pure

lemma checkedMerge_eq {samples : List Sample} (h : (sum (samples.map (·.weight)) == 0.0) = false) :
    checkedMerge samples = some (merge samples) := by
  match samples with
  | [s] => rfl
  | [] | _ :: _ :: _ => exact quotient?_eq_some h

/-- The weights of a moment with usable trades never sum to zero. -/
lemma checkedPoint_eq {entry : Int × List Sample} (h : entry ∈ (groups trades).samples.entries) :
    checkedPoint theme entry = some (point? theme entry) := by
  obtain ⟨time, samples⟩ := entry
  obtain ⟨⟨t, ht, htime⟩, rfl⟩ := mem_entries_groups.1 h
  have hweights : 0.0 < sum ((((usable trades).filter (·.timestamp = time)).map reading).map
      (·.weight)) := by
    refine zero_lt_sum (fun x hx => ?_) ?_
    · obtain ⟨s, hs, rfl⟩ := List.mem_map.1 hx
      obtain ⟨u, hu, rfl⟩ := List.mem_map.1 hs
      have husable : Usable u := (mem_usable.1 (List.mem_filter.1 hu).1).2
      exact husable.zero_lt_outputMagnitude
    · have hmem : t ∈ (usable trades).filter (·.timestamp = time) :=
        List.mem_filter.2 ⟨ht, decide_eq_true htime⟩
      simpa using List.ne_nil_of_mem hmem
  have hz := Binary64.beq_zero_eq_false
    ((Binary64.zero_lt_iff_not_le (Binary64.zero_le_of_lt hweights)).1 hweights)
  rw [checkedPoint, checkedMerge_eq hz]
  rfl

lemma mapM_checkedPoint {entries : List (Int × List Sample)}
    (h : ∀ e ∈ entries, e ∈ (groups trades).samples.entries) :
    entries.mapM (checkedPoint theme) = some (entries.map (point? theme)) := by
  induction entries with
  | nil => rfl
  | cons e rest ih =>
    have hrest := ih fun e' he' => h e' (List.mem_cons_of_mem e he')
    rw [List.mapM_cons, checkedPoint_eq (h e List.mem_cons_self), hrest]
    rfl

theorem checkedPoints_eq (theme : String) (trades : List Trade) :
    checkedPoints theme trades = some (points theme trades) := by
  have hpoints : (groups trades).samples.entries.mapM (checkedPoint theme) =
      some ((groups trades).samples.entries.map (point? theme)) := mapM_checkedPoint fun _ he => he
  rw [checkedPoints, checkedGroups_eq]
  change ((groups trades).samples.entries.mapM (checkedPoint theme)).bind _ = _
  rw [hpoints, points_eq, Option.bind_some, List.reduceOption, List.filterMap_map]
  rfl

end TradeCharts.History
