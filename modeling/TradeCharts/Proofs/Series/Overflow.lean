import TradeCharts.Proofs.Chart.Totals
import TradeCharts.Proofs.Numeric.Quotient

/-!
Prices and totals beyond the doubles. A price is checked, its two totals are not: an infinite quote
total leaves no finite price, but an infinite base total leaves the price zero. So every price is the
quotient of two finite totals exactly when the base total stays in range or the quote total does not
(`sound_ofAmounts_iff`).
-/
namespace TradeCharts.PriceTotals

/-- The totals of some trades, each given by its base and its quote amount. -/
def ofAmounts (amounts : List (Float × Float)) : PriceTotals :=
  amounts.foldl (fun s a => s.add a.1 a.2) .zero

/-- No price is made from a total that has overflowed. -/
structure Sound (s : PriceTotals) : Prop where
  finite : ∀ time p, s.point? time = some p →
    s.base.isFinite ∧ s.quote.isFinite ∧ p.value = s.quote / s.base
  silent : ¬ s.base.isFinite ∨ ¬ s.quote.isFinite → ∀ time, s.point? time = none

/-- Finite amounts that are not below zero. -/
def Regular (amounts : List (Float × Float)) : Prop :=
  ∀ a ∈ amounts, (0.0 ≤ a.1 ∧ a.1.isFinite) ∧ 0.0 ≤ a.2 ∧ a.2.isFinite

instance (amounts : List (Float × Float)) : Decidable (Regular amounts) :=
  inferInstanceAs (Decidable (∀ a ∈ amounts, _))

variable {amounts : List (Float × Float)}

lemma ofAmounts_eq (amounts : List (Float × Float)) :
    ofAmounts amounts = ⟨History.sum (amounts.map (·.1)), History.sum (amounts.map (·.2)),
      amounts.length⟩ := by
  induction amounts using List.reverseRecOn with
  | nil => rfl
  | append_singleton amounts a ih =>
    rw [ofAmounts, List.foldl_append, ← ofAmounts, ih]
    simp [History.sum, add]

lemma point?_eq_some {s : PriceTotals} (hb : 0.0 ≤ s.base) {time : Int} {p : PricePoint} :
    s.point? time = some p ↔
      0.0 < s.base ∧ (s.quote / s.base).isFinite ∧ p = ⟨time, s.quote / s.base⟩ := by
  rw [point?, Option.map_eq_some_iff]
  constructor
  · rintro ⟨x, hx, rfl⟩
    obtain ⟨hpos, hfinite, rfl⟩ := (View.price?_eq_some hb).1 hx
    exact ⟨hpos, hfinite, rfl⟩
  · rintro ⟨hpos, hfinite, rfl⟩
    exact ⟨_, (View.price?_eq_some hb).2 ⟨hpos, hfinite, rfl⟩, rfl⟩

/-- A base total that alone has overflowed leaves a price of zero. -/
lemma exists_point_of_infinite_base {s : PriceTotals} (hb : 0.0 ≤ s.base)
    (ib : ¬ s.base.isFinite) (fq : s.quote.isFinite) (time : Int) :
    ∃ p, s.point? time = some p ∧ p.value == 0.0 := by
  obtain ⟨hfinite, hzero⟩ := Binary64.div_infinite fq hb ib
  exact ⟨_, (point?_eq_some hb).2 ⟨Binary64.zero_lt_of_not_isFinite hb ib, hfinite, rfl⟩, hzero⟩

lemma sound_iff {s : PriceTotals} (hb : 0.0 ≤ s.base) :
    s.Sound ↔ s.base.isFinite ∨ ¬ s.quote.isFinite := by
  constructor
  · intro h
    by_contra hnot
    obtain ⟨ib, fq⟩ := not_or.1 hnot
    obtain ⟨p, hp, -⟩ := exists_point_of_infinite_base hb ib (not_not.1 fq) 0
    rw [h.silent (.inl ib) 0] at hp
    cases hp
  · intro h
    have hfinite (time : Int) (p : PricePoint) (hp : s.point? time = some p) :
        s.base.isFinite ∧ s.quote.isFinite ∧ p.value = s.quote / s.base := by
      obtain ⟨-, hquotient, rfl⟩ := (point?_eq_some hb).1 hp
      have fq := Binary64.isFinite_of_isFinite_div hquotient
      exact ⟨h.resolve_right (not_not_intro fq), fq, rfl⟩
    refine ⟨hfinite, fun hover time => ?_⟩
    cases hp : s.point? time with
    | none => rfl
    | some p =>
      obtain ⟨fb, fq, -⟩ := hfinite time p hp
      rcases hover with ib | iq
      · exact absurd fb ib
      · exact absurd fq iq

/-- Every price is the quotient of two finite totals unless an addition to the base total overflows
and none to the quote total does. -/
theorem sound_ofAmounts_iff (h : Regular amounts) :
    (ofAmounts amounts).Sound ↔
      History.InRange (amounts.map (·.1)) ∨ ¬ History.InRange (amounts.map (·.2)) := by
  have hbases : ∀ x ∈ amounts.map (·.1), 0.0 ≤ x ∧ x.isFinite := by
    intro x hx
    obtain ⟨a, ha, rfl⟩ := List.mem_map.1 hx
    exact (h a ha).1
  have hquotes : ∀ x ∈ amounts.map (·.2), 0.0 ≤ x ∧ x.isFinite := by
    intro x hx
    obtain ⟨a, ha, rfl⟩ := List.mem_map.1 hx
    exact (h a ha).2
  have hb : 0.0 ≤ (ofAmounts amounts).base := by
    rw [ofAmounts_eq]
    exact History.zero_le_sum fun x hx => (hbases x hx).1
  rw [sound_iff hb, ofAmounts_eq, History.isFinite_sum_iff hbases, History.isFinite_sum_iff hquotes]

/-- Two trades at the prices 3 and 6, the first one of twice the amount. -/
theorem sound_ofAmounts_weighted :
    let amounts : List (Float × Float) := [(100.0, 300.0), (50.0, 300.0)]
    Regular amounts ∧ History.InRange (amounts.map (·.1)) ∧ (ofAmounts amounts).Sound ∧
      (ofAmounts amounts).point? 1000 = some ⟨1000, 4.0⟩ := by
  intro amounts
  have hregular : Regular amounts := by decide +kernel
  have hrange : History.InRange (amounts.map (·.1)) :=
    (History.isFinite_sum_iff (by decide +kernel)).1 (by decide +kernel)
  exact ⟨hregular, hrange, (sound_ofAmounts_iff hregular).2 (.inl hrange), by decide +kernel⟩

/-- Two trades at the price 0.5 and of finite amounts. Their base total overflows, their quote total
does not, and the price they are merged into is zero. -/
theorem not_sound_of_overflowed_base :
    let amounts : List (Float × Float) := [(1e308, 5e307), (1e308, 5e307)]
    Regular amounts ∧ ¬ (ofAmounts amounts).base.isFinite ∧
      (ofAmounts amounts).point? 1000 = some ⟨1000, 0.0⟩ ∧ ¬ (ofAmounts amounts).Sound := by
  intro amounts
  have hover : ¬ (ofAmounts amounts).base.isFinite := by decide +kernel
  have hpoint : (ofAmounts amounts).point? 1000 = some ⟨1000, 0.0⟩ := by decide +kernel
  refine ⟨by decide +kernel, hover, hpoint, fun h => ?_⟩
  rw [h.silent (.inl hover) 1000] at hpoint
  cases hpoint

end TradeCharts.PriceTotals
