import TradeCharts.Proofs.History.Division

/-!
The history of an order, described point by point. A point stands at every moment with usable trades
whose merged ratio is finite, and nowhere else, so the description has exactly one solution: the
history that is drawn (`shows_iff_eq_points`).
-/
namespace TradeCharts.History

/-- The value of the usable trades of one moment: the ratio of a lone one, and of several their
ratios weighted by the output amounts, both sums from left to right. -/
def merged : List Trade → Float
  | [t] => t.ratio
  | ts => sum (ts.map fun t => t.ratio * t.outputMagnitude) / sum (ts.map (·.outputMagnitude))

def valueAt (trades : List Trade) (time : Int) : Float :=
  merged ((usable trades).filter (·.timestamp = time))

structure IsPoint (theme : String) (trades : List Trade) (p : ColoredPoint) : Prop where
  traded : ∃ t ∈ usable trades, t.timestamp = p.time
  finite : (valueAt trades p.time).isFinite
  value : p.value = valueAt trades p.time
  color : p.color = some (historyColor theme)

/-- What a history has to show: exactly the points, ascending in time. -/
structure Shows (theme : String) (trades : List Trade) (ps : List ColoredPoint) : Prop where
  ascending : ps.Pairwise (·.time < ·.time)
  mem : ∀ p, p ∈ ps ↔ IsPoint theme trades p

variable {theme : String} {trades : List Trade}

lemma merge_map_reading (ts : List Trade) : merge (ts.map reading) = merged ts := by
  match ts with
  | [] => rfl
  | [t] => rfl
  | t :: u :: rest =>
    change sum (((t :: u :: rest).map reading).map fun s => s.ratio * s.weight) /
      sum (((t :: u :: rest).map reading).map (·.weight)) = _
    rw [List.map_map, List.map_map]
    rfl

theorem mem_points_iff {p : ColoredPoint} : p ∈ points theme trades ↔ IsPoint theme trades p := by
  simp only [points_eq, List.mem_filterMap, Prod.exists, mem_entries_groups, point?_eq_some]
  constructor
  · rintro ⟨time, samples, ⟨ht, rfl⟩, rfl, hf, hv, hc⟩
    rw [merge_map_reading] at hf hv
    exact ⟨ht, hf, hv, hc⟩
  · intro h
    refine ⟨p.time, _, ⟨h.traded, rfl⟩, rfl, ?_⟩
    rw [merge_map_reading]
    exact ⟨h.finite, h.value, h.color⟩

theorem points_ascending (theme : String) (trades : List Trade) :
    (points theme trades).Pairwise (·.time < ·.time) := by
  refine List.Pairwise.filterMap _ (fun e e' hlt p hp q hq => ?_) (groups trades).samples.ascending
  have hpt : p.time = e.1 := (point?_eq_some.1 hp).1
  have hqt : q.time = e'.1 := (point?_eq_some.1 hq).1
  rw [hpt, hqt]
  exact hlt

theorem shows_points (theme : String) (trades : List Trade) :
    Shows theme trades (points theme trades) where
  ascending := points_ascending theme trades
  mem _ := mem_points_iff

/-- Trades that are not usable change nothing. -/
theorem points_usable (theme : String) (trades : List Trade) :
    points theme (usable trades) = points theme trades := by
  have h : usable (usable trades) = usable trades := by simp [usable]
  rw [points_eq, points_eq, groups_samples_eq, groups_samples_eq, h]

/-- A history is drawn as described, and in no other way. Only usable trades matter to it, and
drawing it divides by no zero. -/
theorem shows_iff_eq_points (theme : String) (trades : List Trade) :
    (∀ ps, Shows theme trades ps ↔ ps = points theme trades) ∧
      points theme (usable trades) = points theme trades ∧
      checkedPoints theme trades = some (points theme trades) := by
  refine ⟨fun ps => ⟨fun h => ?_, ?_⟩, points_usable theme trades, checkedPoints_eq theme trades⟩
  · refine eq_of_ascending ColoredPoint.time h.ascending (points_ascending theme trades) fun p => ?_
    rw [h.mem, mem_points_iff]
  · rintro rfl
    exact shows_points theme trades

end TradeCharts.History
