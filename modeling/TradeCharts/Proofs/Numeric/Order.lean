import Mathlib
import TradeCharts.Proofs.Numeric.Sum

/-!
Finite doubles compare as their exact values do (`le_iff_toRat_le`). The leading bit of a significand
is set unless the exponent is that of the least double, so the exponents decide where they differ.
-/
namespace TradeCharts.Binary64

open Float.Model Float.Model.UnpackedFloat

/-- A significand and an exponent as those of the finite doubles are. -/
structure Canonical (m : Nat) (e : Int) : Prop where
  significand : m < 2 ^ 53
  exponent : -1074 ≤ e
  normal : e = -1074 ∨ 2 ^ 52 ≤ m

lemma canonical_of_finite {x : Float} {s : Sign} {m : Nat} {e : Int} {h : 0 < m}
    (hu : x.toModel.unpack = .finite s m e h) : Canonical m e := by
  rcases subnormal_or_normal hu with ⟨hm, rfl⟩ | ⟨hlow, hhigh, he, -⟩
  · exact ⟨by omega, le_rfl, .inl rfl⟩
  · exact ⟨hhigh, he, .inr hlow⟩

variable {m m' : Nat} {e e' : Int}

lemma Canonical.lt_of_exponent_lt (h : Canonical m e) (h' : Canonical m' e') (he : e < e') :
    (m : ℚ) * 2 ^ e < m' * 2 ^ e' := by
  have hbelow := h.exponent
  have hnormal : 2 ^ 52 ≤ m' := h'.normal.resolve_left (by omega)
  have hpos : (0 : ℚ) < 2 ^ e := zpow_pos two_pos e
  have hstep : (2 : ℚ) ^ e * 2 ≤ 2 ^ e' := by
    rw [← zpow_add_one₀ two_ne_zero]
    exact zpow_le_zpow_right₀ one_le_two (by omega)
  have hm : (m : ℚ) < 2 ^ 53 := by exact_mod_cast h.significand
  have hm' : (2 : ℚ) ^ 52 ≤ m' := by exact_mod_cast hnormal
  calc (m : ℚ) * 2 ^ e < 2 ^ 53 * 2 ^ e := by gcongr
    _ = 2 ^ 52 * (2 ^ e * 2) := by ring
    _ ≤ m' * 2 ^ e' := by gcongr

/-- Magnitudes compare by their exponents, and by their significands where these are the same. -/
lemma Canonical.isLE_iff (h : Canonical m e) (h' : Canonical m' e') :
    ((compare e e').then (compare m m')).isLE ↔ (m : ℚ) * 2 ^ e ≤ m' * 2 ^ e' := by
  rcases lt_trichotomy e e' with hlt | rfl | hgt
  · rw [Int.compare_eq_lt.2 hlt]
    exact iff_of_true rfl (h.lt_of_exponent_lt h' hlt).le
  · have hpos : (0 : ℚ) < 2 ^ e := zpow_pos two_pos e
    rw [Int.compare_eq_eq.2 rfl, mul_le_mul_iff_left₀ hpos, Nat.cast_le]
    exact Nat.isLE_compare
  · rw [Int.compare_eq_gt.2 hgt]
    exact iff_of_false Bool.false_ne_true (h'.lt_of_exponent_lt h hgt).not_ge

lemma toRat_negative {x : Float} {h : 0 < m} (hu : x.toModel.unpack = .finite .negative m e h) :
    toRat x = -(m * 2 ^ e) := by
  rw [toRat, hu, ← neg_mul]
  simp [Sign.apply]

lemma mul_zpow_pos (h : 0 < m) (e : Int) : (0 : ℚ) < m * 2 ^ e :=
  mul_pos (Nat.cast_pos.2 h) (zpow_pos two_pos e)

/-- Finite doubles compare as their exact values do. -/
theorem le_iff_toRat_le {x y : Float} (hx : x.isFinite) (hy : y.isFinite) :
    x ≤ y ↔ toRat x ≤ toRat y := by
  rw [isFinite_eq] at hx hy
  rw [le_iff]
  match hu : x.toModel.unpack, hw : y.toModel.unpack, hx, hy with
  | .zero _, .zero _, _, _ =>
    rw [toRat_zero hu, toRat_zero hw]
    exact iff_of_true rfl le_rfl
  | .zero _, .finite .positive m e h, _, _ =>
    rw [toRat_zero hu, toRat_positive hw]
    exact iff_of_true rfl (mul_zpow_pos h e).le
  | .zero _, .finite .negative m e h, _, _ =>
    rw [toRat_zero hu, toRat_negative hw]
    exact iff_of_false Bool.false_ne_true (not_le.2 (neg_neg_of_pos (mul_zpow_pos h e)))
  | .finite .positive m e h, .zero _, _, _ =>
    rw [toRat_positive hu, toRat_zero hw]
    exact iff_of_false Bool.false_ne_true (not_le.2 (mul_zpow_pos h e))
  | .finite .negative m e h, .zero _, _, _ =>
    rw [toRat_negative hu, toRat_zero hw]
    exact iff_of_true rfl (neg_neg_of_pos (mul_zpow_pos h e)).le
  | .finite .positive m e h, .finite .negative m' e' h', _, _ =>
    rw [toRat_positive hu, toRat_negative hw]
    have hpos := mul_zpow_pos h e
    have hneg := neg_neg_of_pos (mul_zpow_pos h' e')
    exact iff_of_false Bool.false_ne_true (not_le.2 (hneg.trans hpos))
  | .finite .negative m e h, .finite .positive m' e' h', _, _ =>
    rw [toRat_negative hu, toRat_positive hw]
    have hneg := neg_neg_of_pos (mul_zpow_pos h e)
    have hpos := mul_zpow_pos h' e'
    exact iff_of_true rfl (hneg.trans hpos).le
  | .finite .positive m e h, .finite .positive m' e' h', _, _ =>
    rw [toRat_positive hu, toRat_positive hw,
      ← (canonical_of_finite hu).isLE_iff (canonical_of_finite hw)]
    exact Iff.rfl
  | .finite .negative m e h, .finite .negative m' e' h', _, _ =>
    have hswap : ((compare e e').then (compare m m')).swap =
        (compare e' e).then (compare m' m) := by
      rw [Ordering.swap_then, ← Int.compare_swap, ← Nat.compare_swap]
      simp
    rw [toRat_negative hu, toRat_negative hw, neg_le_neg_iff,
      ← (canonical_of_finite hw).isLE_iff (canonical_of_finite hu), ← hswap]
    exact Iff.rfl

end TradeCharts.Binary64
