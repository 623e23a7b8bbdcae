import Mathlib
import TradeCharts.Proofs.Numeric.Packing
import TradeCharts.Proofs.Numeric.Significand

/-!
Sums of doubles that are not below zero. A positive part is never rounded away (`zero_lt_add`), and
the sum is finite as long as its exact value lies below the midpoint between the largest double and
the power of two above it (`isFinite_add_iff`).
-/
namespace TradeCharts.Binary64

open Float.Model Float.Model.UnpackedFloat

lemma unpack_add (x y : Float) : (x + y).toModel.unpack = UnpackedFloat.unpack .binary64
    (UnpackedFloat.pack .binary64 (UnpackedFloat.add .binary64 x.toModel.unpack y.toModel.unpack)) :=
  rfl

/-- The significand of the exact sum of two numbers, at the lower of their exponents. -/
def alignedSum (m : Nat) (e : Int) (m' : Nat) (e' : Int) : Nat :=
  m * 2 ^ (e - min e e').toNat + m' * 2 ^ (e' - min e e').toNat

lemma alignedSum_pos {m m' : Nat} (h : 0 < m) (e e' : Int) : 0 < alignedSum m e m' e' := by
  unfold alignedSum
  positivity

lemma add_finite {m m' : Nat} {e e' : Int} (h : 0 < m) (h' : 0 < m') :
    UnpackedFloat.add .binary64 (.finite .positive m e h) (.finite .positive m' e' h') =
      round .binary64 .positive (alignedSum m e m' e') (min e e') := by
  have hpos : 0 < alignedSum m e m' e' := alignedSum_pos h e e'
  have hsum : ((m <<< (e - min e e').toNat : Nat) : Int) + (m' <<< (e' - min e e').toNat : Nat) =
      (alignedSum m e m' e' : Nat) := by
    simp [alignedSum, Nat.shiftLeft_eq]
  change UnpackedFloat.normalize .binary64 (((m <<< (e - min e e').toNat : Nat) : Int) +
    (m' <<< (e' - min e e').toNat : Nat)) (min e e') .positive = _
  rw [hsum, UnpackedFloat.normalize, Int.compare_eq_gt.2 (by omega)]
  rfl

/-- Positive numbers of the least exponent or above are not rounded to zero. -/
lemma strictSign?_unpack_pack_round {m : Nat} (hm : m ≠ 0) {e : Int} (he : -1074 ≤ e) :
    strictSign? (UnpackedFloat.unpack .binary64
      (UnpackedFloat.pack .binary64 (round .binary64 .positive m e))) = some .positive := by
  have hexp : -1074 ≤ roundingExponent m e := Int.le_max_right _ _
  rw [round_eq hm he]
  split_ifs with hlt
  · exact strictSign?_unpack_pack hlt hexp
  · exact strictSign?_unpack_pack (by decide) (by omega)

lemma strictSign?_infinity : strictSign? (UnpackedFloat.unpack .binary64
    (UnpackedFloat.pack .binary64 (.infinity .positive))) = some .positive :=
  strictSign?_unpack_packComponents (fun _ => rfl) (fun h => absurd h (by decide))

theorem zero_lt_add {x y : Float} (hx : 0.0 ≤ x) (hy : 0.0 < y) : 0.0 < x + y := by
  rw [zero_le_iff] at hx
  rw [zero_lt_iff] at hy ⊢
  rw [unpack_add]
  match hu : x.toModel.unpack, hw : y.toModel.unpack, hx, hy with
  | .infinity .positive, .infinity .positive, _, _ => exact strictSign?_infinity
  | .infinity .positive, .finite .positive .., _, _ => exact strictSign?_infinity
  | .zero _, .infinity .positive, _, _ => exact strictSign?_infinity
  | .finite .positive .., .infinity .positive, _, _ => exact strictSign?_infinity
  | .zero _, .finite .positive m e h, _, _ =>
    obtain ⟨hlt, hmin, -⟩ := finite_bounds hw
    exact strictSign?_unpack_pack hlt hmin
  | .finite .positive m e h, .finite .positive m' e' h', _, _ =>
    have he := finite_bounds hu
    have he' := finite_bounds hw
    rw [add_finite]
    exact strictSign?_unpack_pack_round (alignedSum_pos h e e').ne' (by omega)

/-- A total that starts from zero does not round its first amount. -/
theorem zero_add_of_pos {x : Float} (h : 0.0 < x) : 0.0 + x = x := by
  rw [zero_lt_iff] at h
  have hadd : UnpackedFloat.add .binary64 (.zero .positive) x.toModel.unpack = x.toModel.unpack := by
    match x.toModel.unpack, h with
    | .infinity .positive, _ | .finite .positive .., _ => rfl
  change Float.ofModel (.pack (UnpackedFloat.add .binary64 (.zero .positive) x.toModel.unpack)) = x
  rw [hadd]
  exact ofModel_pack_unpack x

/-- Magnitudes have no negative zero, the only number that adding zero would change. -/
theorem zero_add_abs {x : Float} (h : x.isFinite) : 0.0 + x.abs = x.abs := by
  change x.toModel.unpack.isFinite = true at h
  match hu : x.toModel.unpack, h with
  | .zero s, _ =>
    have habs : x.abs = 0.0 := by
      change Float.ofModel (.pack x.toModel.unpack.abs) = 0.0
      rw [hu]
      rfl
    rw [habs]
    rfl
  | .finite s m e hm, _ =>
    obtain ⟨hlt, hmin, -⟩ := finite_bounds hu
    apply zero_add_of_pos
    rw [zero_lt_iff]
    change strictSign? (UnpackedFloat.unpack .binary64 (UnpackedFloat.pack .binary64
      x.toModel.unpack.abs)) = some .positive
    rw [hu]
    exact strictSign?_unpack_pack hlt hmin

/-- The exact value of a finite double. -/
def toRat (x : Float) : ℚ :=
  match x.toModel.unpack with
  | .finite s m e _ => s.apply m * 2 ^ e
  | _ => 0

lemma toRat_zero {x : Float} {s : Sign} (hu : x.toModel.unpack = .zero s) : toRat x = 0 := by
  rw [toRat, hu]

lemma toRat_positive {x : Float} {m : Nat} {e : Int} {h : 0 < m}
    (hu : x.toModel.unpack = .finite .positive m e h) : toRat x = m * 2 ^ e := by
  rw [toRat, hu]
  rfl

lemma cast_twoTo (n : Nat) : ((twoTo n : Nat) : ℚ) = 2 ^ (n : Int) := by
  rw [show twoTo n = 2 ^ n from rfl, zpow_natCast]
  push_cast
  rfl

lemma mul_zpow_lt_iff {m : Nat} {e : Int} (he : -1074 ≤ e) (n : Nat) :
    (m : ℚ) * 2 ^ e < n ↔ m * twoTo (e + 1074).toNat < n * twoTo 1074 := by
  have hpos : (0 : ℚ) < (twoTo 1074 : Nat) := Nat.cast_pos.2 (twoTo_pos 1074)
  have hexp : e + (1074 : Nat) = ((e + 1074).toNat : Int) := by omega
  have hscale : (2 : ℚ) ^ e * (twoTo 1074 : Nat) = (twoTo (e + 1074).toNat : Nat) := by
    rw [cast_twoTo, cast_twoTo, ← zpow_add₀ (by norm_num), hexp]
  rw [← mul_lt_mul_iff_left₀ hpos, mul_assoc, hscale]
  exact_mod_cast Iff.rfl

lemma alignedSum_eq (m : Nat) (e : Int) (m' : Nat) (e' : Int) :
    (m : ℚ) * 2 ^ e + m' * 2 ^ e' = alignedSum m e m' e' * 2 ^ min e e' := by
  have hscale (a : Int) (ha : min e e' ≤ a) :
      (2 : ℚ) ^ (a - min e e').toNat * 2 ^ min e e' = 2 ^ a := by
    have hexp : ((a - min e e').toNat : Int) + min e e' = a := by omega
    rw [← zpow_natCast, ← zpow_add₀ (by norm_num), hexp]
  rw [alignedSum]
  push_cast
  rw [add_mul, mul_assoc, mul_assoc, hscale e (min_le_left _ _), hscale e' (min_le_right _ _)]

lemma toRat_lt_overflowFrom {x : Float} (hx : 0.0 ≤ x) : toRat x < overflowFrom := by
  have hlimit : (0 : ℚ) < overflowFrom := Nat.cast_pos.2 overflowFrom_pos
  rw [zero_le_iff] at hx
  match hu : x.toModel.unpack, hx with
  | .infinity .positive, _ =>
    rw [toRat, hu]
    exact hlimit
  | .zero _, _ =>
    rw [toRat_zero hu]
    exact hlimit
  | .finite .positive m e h, _ =>
    obtain ⟨hm, hmin, hmax⟩ := finite_bounds hu
    have hscale : m * twoTo (e + 1074).toNat ≤ (2 ^ 53 - 1) * twoTo 2045 :=
      Nat.mul_le_mul (by omega) (twoTo_le_twoTo (by omega))
    have hmul := overflowFrom_mul
    have htop := twoTo_2098
    have hhalf : twoTo 2045 = twoTo 2044 * 2 := twoTo_succ 2044
    have hpos := twoTo_pos 2044
    rw [toRat_positive hu, mul_zpow_lt_iff hmin]
    omega

lemma isFinite_eq (x : Float) : x.isFinite = x.toModel.unpack.isFinite := rfl

lemma not_isFinite_infinity : ¬ (UnpackedFloat.unpack .binary64
    (UnpackedFloat.pack .binary64 (.infinity .positive))).isFinite := by
  decide

lemma isFinite_of_isFinite_unpack_pack {u : UnpackedFloat}
    (h : (UnpackedFloat.unpack .binary64 (UnpackedFloat.pack .binary64 u)).isFinite) :
    u.isFinite := by
  match u, h with
  | .notANumber, h | .infinity .positive, h | .infinity .negative, h => exact absurd h (by decide)
  | .zero _, _ | .finite .., _ => rfl

lemma isFinite_parts_of_add {u w : UnpackedFloat} (h : (UnpackedFloat.add .binary64 u w).isFinite) :
    u.isFinite ∧ w.isFinite := by
  match u, w, h with
  | .infinity s, .infinity s', h => cases s <;> cases s' <;> exact absurd h (by decide)
  | .zero _, .zero _, _ | .zero _, .finite .., _ | .finite .., .zero _, _ => exact ⟨rfl, rfl⟩
  | .finite .., .finite .., _ => exact ⟨rfl, rfl⟩

/-- What is not finite leaves no finite sum. -/
theorem isFinite_of_isFinite_add {x y : Float} (h : (x + y).isFinite) :
    x.isFinite ∧ y.isFinite := by
  rw [isFinite_eq, unpack_add] at h
  exact isFinite_parts_of_add (isFinite_of_isFinite_unpack_pack h)

/-- A sum is finite when its first part is and its exact value does not round beyond the doubles. -/
theorem isFinite_add_iff {x y : Float} (hx : 0.0 ≤ x) (hy : 0.0 ≤ y) (fy : y.isFinite) :
    (x + y).isFinite ↔ x.isFinite ∧ toRat x + toRat y < overflowFrom := by
  have hxlt := toRat_lt_overflowFrom hx
  have hylt := toRat_lt_overflowFrom hy
  rw [zero_le_iff] at hx hy
  rw [isFinite_eq] at fy
  rw [isFinite_eq, isFinite_eq, unpack_add]
  match hu : x.toModel.unpack, hw : y.toModel.unpack, hx, hy, fy with
  | .infinity .positive, .zero _, _, _, _ =>
    exact iff_of_false not_isFinite_infinity fun h => nomatch h.1
  | .infinity .positive, .finite .positive .., _, _, _ =>
    exact iff_of_false not_isFinite_infinity fun h => nomatch h.1
  | .zero s, .zero s', _, _, _ =>
    rw [toRat_zero hu, zero_add]
    exact iff_of_true (by cases s <;> cases s' <;> rfl) ⟨rfl, hylt⟩
  | .zero _, .finite .positive m e h, _, _, _ =>
    rw [toRat_zero hu, zero_add]
    exact iff_of_true (isFinite_unpack_pack.2 (finite_bounds hw).2.2) ⟨rfl, hylt⟩
  | .finite .positive m e h, .zero _, _, _, _ =>
    rw [toRat_zero hw, add_zero]
    exact iff_of_true (isFinite_unpack_pack.2 (finite_bounds hu).2.2) ⟨rfl, hxlt⟩
  | .finite .positive m e h, .finite .positive m' e' h', _, _, _ =>
    have he := finite_bounds hu
    have he' := finite_bounds hw
    have hpos : alignedSum m e m' e' ≠ 0 := (alignedSum_pos h e e').ne'
    -- both sides speak of the exponent that the exact sum is rounded at
    rw [add_finite, round_eq hpos (by omega), toRat_positive hu, toRat_positive hw, alignedSum_eq,
      mul_zpow_lt_iff (by omega), ← rounded_inRange_iff hpos (by omega) (by omega)]
    split_ifs with hlt
    · rw [isFinite_unpack_pack]
      exact (and_iff_right rfl).symm
    · rw [isFinite_unpack_pack]
      exact (and_iff_right rfl).symm

end TradeCharts.Binary64
