import Mathlib
import TradeCharts.Proofs.Numeric.Sum

/-!
Quotients with an infinite part. A quotient is finite only if its dividend is
(`isFinite_of_isFinite_div`), but an infinite divisor goes unnoticed: it turns every finite dividend
into a zero (`div_infinite`, `finite_quotient_vouches_iff`).
-/
namespace TradeCharts.Binary64

open Float.Model Float.Model.UnpackedFloat

lemma unpack_div (x y : Float) : (x / y).toModel.unpack = UnpackedFloat.unpack .binary64
    (UnpackedFloat.pack .binary64 (UnpackedFloat.div .binary64 x.toModel.unpack y.toModel.unpack)) :=
  rfl

lemma isFinite_dividend_of_div {u w : UnpackedFloat}
    (h : (UnpackedFloat.div .binary64 u w).isFinite) : u.isFinite := by
  match u, w, h with
  | .zero _, _, _ | .finite .., _, _ => rfl

/-- What is not finite leaves no finite quotient. -/
theorem isFinite_of_isFinite_div {x y : Float} (h : (x / y).isFinite) : x.isFinite := by
  rw [isFinite_eq, unpack_div] at h
  exact isFinite_dividend_of_div (isFinite_of_isFinite_unpack_pack h)

lemma zero_lt_of_not_isFinite {x : Float} (hx : 0.0 ≤ x) (ix : ¬ x.isFinite) : 0.0 < x := by
  rw [isFinite_eq] at ix
  rw [zero_le_iff] at hx
  rw [zero_lt_iff]
  match x.toModel.unpack, hx, ix with
  | .infinity .positive, _, _ => rfl

theorem div_infinite {x y : Float} (fx : x.isFinite) (hy : 0.0 ≤ y) (iy : ¬ y.isFinite) :
    (x / y).isFinite ∧ x / y == 0.0 := by
  rw [isFinite_eq] at fx iy
  rw [zero_le_iff] at hy
  have hdiv : ∃ s, UnpackedFloat.div .binary64 x.toModel.unpack y.toModel.unpack = .zero s := by
    match x.toModel.unpack, y.toModel.unpack, fx, hy, iy with
    | .zero _, .infinity .positive, _, _, _ | .finite .., .infinity .positive, _, _, _ =>
      exact ⟨_, rfl⟩
  obtain ⟨s, hdiv⟩ := hdiv
  rw [isFinite_eq, beq_eq, unpack_div, hdiv, unpack_zero]
  cases s <;> exact ⟨rfl, rfl⟩

/-- A finite quotient vouches for both of its parts unless its divisor alone is infinite. -/
theorem finite_quotient_vouches_iff {x y : Float} (hy : 0.0 ≤ y) :
    ((x / y).isFinite → y.isFinite ∧ x.isFinite) ↔ y.isFinite ∨ ¬ x.isFinite := by
  constructor
  · intro h
    by_contra hnot
    obtain ⟨iy, fx⟩ := not_or.1 hnot
    exact iy (h (div_infinite (not_not.1 fx) hy iy).1).1
  · intro h hquotient
    have fx := isFinite_of_isFinite_div hquotient
    exact ⟨h.resolve_right (not_not_intro fx), fx⟩

end TradeCharts.Binary64
