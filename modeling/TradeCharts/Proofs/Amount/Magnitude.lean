import TradeCharts.Amount
import TradeCharts.Proofs.Numeric.Sum

/-! Magnitudes: the absolute values of finite doubles. They are not below zero, and since the sign of
a zero is dropped as well, a total that starts with one is that magnitude. -/
namespace TradeCharts

/-- The magnitude of some finite double. -/
def IsMagnitude (m : Float) : Prop :=
  ∃ x : Float, x.isFinite ∧ m = x.abs

namespace IsMagnitude

variable {m : Float}

lemma zero_le (h : IsMagnitude m) : 0.0 ≤ m := by
  obtain ⟨x, hx, rfl⟩ := h
  exact Binary64.zero_le_abs hx

lemma isFinite (h : IsMagnitude m) : m.isFinite := by
  obtain ⟨x, hx, rfl⟩ := h
  exact Binary64.isFinite_abs hx

lemma zero_add (h : IsMagnitude m) : 0.0 + m = m := by
  obtain ⟨x, hx, rfl⟩ := h
  exact Binary64.zero_add_abs hx

end IsMagnitude

lemma isMagnitude_of_finiteMagnitude? {x m : Float} (h : finiteMagnitude? x = some m) :
    IsMagnitude m := by
  unfold finiteMagnitude? at h
  split_ifs at h with hx
  cases h
  exact ⟨x, hx, rfl⟩

/-- What stands for an amount is a magnitude, also the zero for one that is no number. -/
theorem FormattedAmount.isMagnitude (a : FormattedAmount) : IsMagnitude (a.magnitude?.getD 0.0) := by
  cases h : a.magnitude? with
  | none => exact ⟨0.0, by decide, rfl⟩
  | some m =>
    cases a with
    | text s =>
      obtain ⟨x, -, hx⟩ := Option.bind_eq_some_iff.1 h
      exact isMagnitude_of_finiteMagnitude? hx
    | number x => exact isMagnitude_of_finiteMagnitude? h

end TradeCharts
