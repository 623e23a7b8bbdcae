import Mathlib
import TradeCharts.Numeric.Binary64

/-!
Doubles that are not below zero. They are those whose unpacked form is a zero, or positive and not
NaN (`zero_le_iff`); sums and magnitudes stay among them, overflow to infinity included, and so do
finite quotients by a divisor above zero (`zero_le_div`).
-/
namespace TradeCharts.Binary64

open Float.Model Float.Model.UnpackedFloat

/-- Whether an unpacked number is not below zero. A zero of either sign is not. -/
def isUpward : UnpackedFloat → Bool
  | .infinity .positive | .zero _ | .finite .positive .. => true
  | _ => false

/-- Only a full exponent beside a mantissa that is not zero reads as NaN. -/
theorem isUpward_unpack_packComponents {e : BitVec 11} {m : BitVec 52}
    (h : e = -1#11 → m = 0#52) :
    isUpward (UnpackedFloat.unpack .binary64 (packComponents .binary64 .positive e m)) := by
  unfold UnpackedFloat.unpack
  simp only [unpackMantissa_packComponents, unpackExponent_packComponents,
    unpackSign_packComponents, Sign.ofBitVec_toBitVec]
  split_ifs with he hm
  · rfl
  · exact absurd (h he) hm
  all_goals rfl

theorem isUpward_unpack_pack {u : UnpackedFloat} (h : isUpward u) :
    isUpward (UnpackedFloat.unpack .binary64 (UnpackedFloat.pack .binary64 u)) := by
  match u, h with
  | .infinity .positive, _ => exact isUpward_unpack_packComponents fun _ => rfl
  | .zero s, _ => cases s <;> decide
  | .finite .positive m e hm, _ =>
    unfold UnpackedFloat.pack
    dsimp only
    split_ifs with h₁ h₂
    · exact isUpward_unpack_packComponents fun _ => rfl
    · refine isUpward_unpack_packComponents fun he => absurd (congrArg BitVec.toNat he) ?_
      rw [BitVec.toNat_ofNat]
      change ¬ _ % 2 ^ 11 = 2047
      simp only [Nat.reducePow] at h₁ ⊢
      omega
    · exact isUpward_unpack_packComponents fun he => absurd he (by decide)

theorem le_iff (x y : Float) : x ≤ y ↔ x.toModel.unpack.le y.toModel.unpack = true := by
  change decide _ = true ↔ _
  rw [decide_eq_true_iff]
  rfl

theorem lt_iff (x y : Float) : x < y ↔ x.toModel.unpack.lt y.toModel.unpack = true := by
  change decide _ = true ↔ _
  rw [decide_eq_true_iff]
  rfl

theorem unpack_zero : (0.0 : Float).toModel.unpack = .zero .positive := rfl

/-- A double is not below zero when its unpacked form is not. -/
theorem zero_le_iff (x : Float) : 0.0 ≤ x ↔ isUpward x.toModel.unpack := by
  rw [le_iff, unpack_zero]
  match x.toModel.unpack with
  | .notANumber | .zero _ => exact Iff.rfl
  | .infinity .positive | .infinity .negative => exact Iff.rfl
  | .finite .positive .. | .finite .negative .. => exact Iff.rfl

theorem isUpward_roundWithAccuracy (m : Nat) (e : Int) (a : Accuracy) :
    isUpward (roundWithAccuracy .binary64 .positive m e a) := by
  unfold roundWithAccuracy
  dsimp only
  split_ifs <;> rfl

theorem isUpward_normalize {m : Int} (h : 0 ≤ m) (e : Int) :
    isUpward (UnpackedFloat.normalize .binary64 m e .positive) := by
  unfold UnpackedFloat.normalize
  split
  · next hm =>
    rw [Int.compare_eq_lt] at hm
    omega
  · rfl
  · exact isUpward_roundWithAccuracy _ _ _

theorem isUpward_add {u w : UnpackedFloat} (hu : isUpward u) (hw : isUpward w) :
    isUpward (UnpackedFloat.add .binary64 u w) := by
  match u, w, hu, hw with
  | .infinity .positive, .infinity .positive, _, _ => rfl
  | .infinity .positive, .zero _, _, _ => rfl
  | .infinity .positive, .finite .positive .., _, _ => rfl
  | .zero _, .infinity .positive, _, _ => rfl
  | .zero s, .zero s', _, _ => cases s <;> cases s' <;> rfl
  | .zero _, .finite .positive .., _, _ => rfl
  | .finite .positive .., .infinity .positive, _, _ => rfl
  | .finite .positive .., .zero _, _, _ => rfl
  | .finite .positive m e _, .finite .positive m' e' _, _, _ =>
    exact isUpward_normalize (Int.add_nonneg (Int.natCast_nonneg _) (Int.natCast_nonneg _)) _

/-- A sum of doubles that are not below zero is no NaN and not below zero. -/
theorem zero_le_add {x y : Float} (hx : 0.0 ≤ x) (hy : 0.0 ≤ y) : 0.0 ≤ x + y := by
  rw [zero_le_iff] at hx hy ⊢
  exact isUpward_unpack_pack (isUpward_add hx hy)

/-- The magnitude of a finite double is not below zero. -/
theorem zero_le_abs {x : Float} (h : x.isFinite) : 0.0 ≤ x.abs := by
  rw [zero_le_iff]
  refine isUpward_unpack_pack ?_
  change x.toModel.unpack.isFinite = true at h
  match x.toModel.unpack, h with
  | .zero _, _ | .finite .., _ => rfl

/-- What is not below zero is above it unless it is at most zero. -/
theorem zero_lt_iff_not_le {x : Float} (h : 0.0 ≤ x) : 0.0 < x ↔ ¬ x ≤ 0.0 := by
  rw [zero_le_iff] at h
  rw [lt_iff, le_iff, unpack_zero]
  match x.toModel.unpack, h with
  | .infinity .positive, _ => decide
  | .zero s, _ => cases s <;> decide
  | .finite .positive .., _ => exact ⟨fun _ => Bool.false_ne_true, fun _ => rfl⟩

/-- The sign of an unpacked number that is neither a zero nor NaN. -/
def strictSign? : UnpackedFloat → Option Sign
  | .infinity s | .finite s .. => some s
  | _ => none

theorem zero_lt_iff (x : Float) : 0.0 < x ↔ strictSign? x.toModel.unpack = some .positive := by
  rw [lt_iff, unpack_zero]
  match x.toModel.unpack with
  | .notANumber | .zero _ => exact iff_of_false Bool.false_ne_true nofun
  | .infinity .positive | .finite .positive .. => exact iff_of_true rfl rfl
  | .infinity .negative | .finite .negative .. => exact iff_of_false Bool.false_ne_true nofun

theorem lt_zero_iff (x : Float) : x < 0.0 ↔ strictSign? x.toModel.unpack = some .negative := by
  rw [lt_iff, unpack_zero]
  match x.toModel.unpack with
  | .notANumber | .zero _ => exact iff_of_false Bool.false_ne_true nofun
  | .infinity .negative | .finite .negative .. => exact iff_of_true rfl rfl
  | .infinity .positive | .finite .positive .. => exact iff_of_false Bool.false_ne_true nofun

theorem zero_le_of_lt {x : Float} (h : 0.0 < x) : 0.0 ≤ x := by
  rw [zero_lt_iff] at h
  rw [zero_le_iff]
  match x.toModel.unpack, h with
  | .infinity .positive, _ | .finite .positive .., _ => rfl

lemma beq_eq (x y : Float) : (x == y) = x.toModel.unpack.beq y.toModel.unpack := rfl

/-- What is not below zero and differs from it is above it. -/
theorem zero_lt_of_beq_eq_false {x : Float} (hx : 0.0 ≤ x) (h : (x == 0.0) = false) : 0.0 < x := by
  rw [zero_le_iff] at hx
  rw [beq_eq, unpack_zero] at h
  rw [zero_lt_iff]
  match x.toModel.unpack, hx, h with
  | .infinity .positive, _, _ | .finite .positive .., _, _ => rfl

theorem beq_zero_eq_false {x : Float} (h : ¬ x ≤ 0.0) : (x == 0.0) = false := by
  rw [le_iff, unpack_zero] at h
  rw [beq_eq, unpack_zero]
  match x.toModel.unpack, h with
  | .notANumber, _ | .infinity .positive, _ | .infinity .negative, _ => rfl
  | .finite .positive .., _ | .finite .negative .., _ => rfl

lemma isUpward_div {u w : UnpackedFloat} (hu : isUpward u) (hw : strictSign? w = some .positive) :
    UnpackedFloat.div .binary64 u w = .notANumber ∨ isUpward (UnpackedFloat.div .binary64 u w) := by
  match u, w, hu, hw with
  | .infinity .positive, .infinity .positive, _, _ => exact .inl rfl
  | .infinity .positive, .finite .positive .., _, _ => exact .inr rfl
  | .zero _, .infinity .positive, _, _ => exact .inr rfl
  | .zero _, .finite .positive .., _, _ => exact .inr rfl
  | .finite .positive .., .infinity .positive, _, _ => exact .inr rfl
  | .finite .positive .., .finite .positive .., _, _ => exact .inr (isUpward_roundWithAccuracy _ _ _)

/-- A finite quotient by a double above zero keeps the sign of its dividend. The only such quotient
that is NaN has two infinities. -/
theorem zero_le_div {x y : Float} (hx : 0.0 ≤ x) (hy : 0.0 < y) (hf : (x / y).isFinite) :
    0.0 ≤ x / y := by
  rw [zero_le_iff] at hx ⊢
  rw [zero_lt_iff] at hy
  rcases isUpward_div hx hy with h | h
  · change UnpackedFloat.isFinite (UnpackedFloat.unpack .binary64 (UnpackedFloat.pack .binary64
      (UnpackedFloat.div .binary64 x.toModel.unpack y.toModel.unpack))) = true at hf
    rw [h] at hf
    exact absurd hf (by decide)
  · exact isUpward_unpack_pack h

lemma isUpward_mul {u w : UnpackedFloat} (hu : isUpward u) (hw : isUpward w) (fu : u.isFinite)
    (fw : w.isFinite) : isUpward (UnpackedFloat.mul .binary64 u w) := by
  match u, w, hu, hw, fu, fw with
  | .zero _, .zero _, _, _, _, _ => rfl
  | .zero _, .finite .positive .., _, _, _, _ => rfl
  | .finite .positive .., .zero _, _, _, _, _ => rfl
  | .finite .positive .., .finite .positive .., _, _, _, _ => exact isUpward_roundWithAccuracy _ _ _

/-- A product of finite doubles that are not below zero is no NaN and not below zero, but it may be
infinite. -/
theorem zero_le_mul {x y : Float} (hx : 0.0 ≤ x) (hy : 0.0 ≤ y) (fx : x.isFinite)
    (fy : y.isFinite) : 0.0 ≤ x * y := by
  rw [zero_le_iff] at hx hy ⊢
  exact isUpward_unpack_pack (isUpward_mul hx hy fx fy)

end TradeCharts.Binary64
