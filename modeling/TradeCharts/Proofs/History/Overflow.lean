import TradeCharts.Proofs.History.Specification
import TradeCharts.Proofs.Numeric.Quotient

/-!
Merged points beyond the doubles. Only the quotient of the two totals of a moment is checked. A
weighted total that has overflowed leaves no finite quotient, but an infinite total of the weights
leaves the point zero. So no point is merged from an overflowed total exactly when the weights of
every merged moment stay in range or its weighted ratios do not (`soundMerges_iff`).
-/
namespace TradeCharts.History

def group (trades : List Trade) (time : Int) : List Trade :=
  (usable trades).filter (·.timestamp = time)

def weights (trades : List Trade) (time : Int) : List Float :=
  (group trades time).map (·.outputMagnitude)

def weighted (trades : List Trade) (time : Int) : List Float :=
  (group trades time).map fun t => t.ratio * t.outputMagnitude

/-- A moment with several usable trades. -/
def Merges (trades : List Trade) (time : Int) : Prop :=
  2 ≤ (group trades time).length

instance (trades : List Trade) (time : Int) : Decidable (Merges trades time) :=
  inferInstanceAs (Decidable (2 ≤ _))

/-- No point is merged from a total that has overflowed. -/
structure SoundMerges (theme : String) (trades : List Trade) : Prop where
  finite : ∀ p ∈ points theme trades, Merges trades p.time →
    (sum (weights trades p.time)).isFinite ∧ (sum (weighted trades p.time)).isFinite
  silent : ∀ time, Merges trades time →
    ¬ (sum (weights trades time)).isFinite ∨ ¬ (sum (weighted trades time)).isFinite →
      ∀ p ∈ points theme trades, p.time ≠ time

variable {theme : String} {trades : List Trade} {time : Int} {t : Trade} {xs : List Float}

lemma forall_isFinite_of_isFinite_sum (h : (sum xs).isFinite) : ∀ x ∈ xs, x.isFinite := by
  induction xs using List.reverseRecOn with
  | nil => simp
  | append_singleton xs x ih =>
    rw [sum_append_singleton] at h
    obtain ⟨hxs, hx⟩ := Binary64.isFinite_of_isFinite_add h
    intro y hy
    rcases List.mem_append.1 hy with hy | hy
    · exact ih hxs y hy
    · rwa [List.mem_singleton.1 hy]

/-- A total overflows when one of its parts does or one of the additions that make it up. -/
theorem isFinite_sum_iff_parts (h : ∀ x ∈ xs, 0.0 ≤ x) :
    (sum xs).isFinite ↔ (∀ x ∈ xs, x.isFinite) ∧ InRange xs := by
  constructor
  · intro hsum
    have hparts := forall_isFinite_of_isFinite_sum hsum
    exact ⟨hparts, (isFinite_sum_iff fun x hx => ⟨h x hx, hparts x hx⟩).1 hsum⟩
  · rintro ⟨hparts, hrange⟩
    exact (isFinite_sum_iff fun x hx => ⟨h x hx, hparts x hx⟩).2 hrange

lemma usable_of_mem_group (h : t ∈ group trades time) : Usable t :=
  (mem_usable.1 (List.mem_filter.1 h).1).2

lemma Usable.zero_le_ratio (h : Usable t) : 0.0 ≤ t.ratio :=
  Binary64.zero_le_div t.input.formattedAmount.isMagnitude.zero_le h.zero_lt_outputMagnitude h.finite

lemma isFinite_sum_weights_iff :
    (sum (weights trades time)).isFinite ↔ InRange (weights trades time) := by
  refine isFinite_sum_iff fun x hx => ?_
  obtain ⟨t, -, rfl⟩ := List.mem_map.1 hx
  have hmagnitude := t.output.formattedAmount.isMagnitude
  exact ⟨hmagnitude.zero_le, hmagnitude.isFinite⟩

lemma isFinite_sum_weighted_iff : (sum (weighted trades time)).isFinite ↔
    (∀ x ∈ weighted trades time, x.isFinite) ∧ InRange (weighted trades time) := by
  refine isFinite_sum_iff_parts fun x hx => ?_
  obtain ⟨t, ht, rfl⟩ := List.mem_map.1 hx
  have husable := usable_of_mem_group ht
  have hmagnitude := t.output.formattedAmount.isMagnitude
  exact Binary64.zero_le_mul husable.zero_le_ratio hmagnitude.zero_le husable.finite
    hmagnitude.isFinite

lemma valueAt_of_merges (h : Merges trades time) :
    valueAt trades time = sum (weighted trades time) / sum (weights trades time) := by
  change merged (group trades time) = _
  unfold Merges at h
  unfold weighted weights
  match group trades time, h with
  | _ :: _ :: _, _ => rfl

lemma exists_point_iff (h : Merges trades time) : (∃ p ∈ points theme trades, p.time = time) ↔
    (sum (weighted trades time) / sum (weights trades time)).isFinite := by
  rw [← valueAt_of_merges h]
  constructor
  · rintro ⟨p, hp, rfl⟩
    exact (mem_points_iff.1 hp).finite
  · intro hfinite
    obtain ⟨t, ht⟩ := List.exists_mem_of_length_pos (Nat.lt_of_lt_of_le Nat.two_pos h)
    obtain ⟨ht, htime⟩ := List.mem_filter.1 ht
    let p : ColoredPoint := ⟨time, valueAt trades time, some (historyColor theme)⟩
    have hp : IsPoint theme trades p := ⟨⟨t, ht, of_decide_eq_true htime⟩, hfinite, rfl, rfl⟩
    exact ⟨p, mem_points_iff.2 hp, rfl⟩

lemma zero_le_sum_weights (trades : List Trade) (time : Int) : 0.0 ≤ sum (weights trades time) := by
  refine zero_le_sum fun x hx => ?_
  obtain ⟨t, -, rfl⟩ := List.mem_map.1 hx
  exact t.output.formattedAmount.isMagnitude.zero_le

lemma soundMerges_iff_quotients : SoundMerges theme trades ↔ ∀ time, Merges trades time →
    (sum (weighted trades time) / sum (weights trades time)).isFinite →
      (sum (weights trades time)).isFinite ∧ (sum (weighted trades time)).isFinite := by
  constructor
  · intro h time hmerges hquotient
    have hpoint : ∃ p ∈ points theme trades, p.time = time := (exists_point_iff hmerges).2 hquotient
    obtain ⟨p, hp, rfl⟩ := hpoint
    exact h.finite p hp hmerges
  · intro h
    have hfinite (p : ColoredPoint) (hp : p ∈ points theme trades) (hmerges : Merges trades p.time) :=
      h p.time hmerges ((exists_point_iff hmerges).1 ⟨p, hp, rfl⟩)
    refine ⟨hfinite, fun time hmerges hover p hp htime => ?_⟩
    subst htime
    obtain ⟨hweights, hweighted⟩ := hfinite p hp hmerges
    rcases hover with hover | hover
    · exact hover hweights
    · exact hover hweighted

/-- No point is merged from an overflowed total unless, at some moment of several usable trades, the
weights overflow and the weighted ratios do not. -/
theorem soundMerges_iff (theme : String) (trades : List Trade) :
    SoundMerges theme trades ↔ ∀ time, Merges trades time →
      InRange (weights trades time) ∨
        ¬ ((∀ x ∈ weighted trades time, x.isFinite) ∧ InRange (weighted trades time)) := by
  rw [soundMerges_iff_quotients]
  refine forall₂_congr fun time _ => ?_
  rw [Binary64.finite_quotient_vouches_iff (zero_le_sum_weights trades time),
    isFinite_sum_weights_iff, isFinite_sum_weighted_iff]

/-- Two trades at the ratio 1e-308 and of finite amounts. Their weights overflow, their weighted
ratios do not, and the ratio they are merged into is zero. -/
theorem not_soundMerges_of_overflowed_weights :
    let trades : List Trade := [.exchange 10 "a" 1.0 "b" 1e308, .exchange 10 "a" 1.0 "b" 1e308]
    Merges trades 10 ∧ ¬ (sum (weights trades 10)).isFinite ∧
      points "dark" trades = [⟨10, 0.0, some (historyColor "dark")⟩] ∧
      ¬ SoundMerges "dark" trades := by
  intro trades
  have hmerges : Merges trades 10 := by decide +kernel
  have hover : ¬ (sum (weights trades 10)).isFinite := by decide +kernel
  have hpoints : points "dark" trades = [⟨10, 0.0, some (historyColor "dark")⟩] := by decide +kernel
  refine ⟨hmerges, hover, hpoints, fun h => ?_⟩
  refine h.silent 10 hmerges (.inl hover) ⟨10, 0.0, some (historyColor "dark")⟩ ?_ rfl
  rw [hpoints]
  exact List.mem_singleton_self _

end TradeCharts.History
