import Mathlib
import TradeCharts.Proofs.Numeric.Sign

/-!
What packing keeps of an unpacked number. The finite doubles have significands of 53 bits and
exponents from -1074 to 971 (`finite_bounds`). Packing keeps the sign of a number at that precision
even where its exponent is too large (`strictSign?_unpack_pack`), and it is then no longer finite
(`isFinite_unpack_pack`).
-/
namespace TradeCharts.Binary64

open Float.Model Float.Model.UnpackedFloat

lemma toNat_impliedBit_append (m : BitVec 52) : (1#1 ++ m).toNat = 2 ^ 52 + m.toNat := by
  rw [BitVec.toNat_append]
  exact (Nat.two_pow_add_eq_or_of_lt m.isLt 1).symm

/-- A finite double has its leading bit set, or the exponent of the least double. -/
theorem subnormal_or_normal {x : Float} {s : Sign} {m : Nat} {e : Int} {h : 0 < m}
    (hu : x.toModel.unpack = .finite s m e h) :
    (m < 2 ^ 52 ∧ e = -1074) ∨ (2 ^ 52 ≤ m ∧ m < 2 ^ 53 ∧ -1074 ≤ e ∧ e ≤ 971) := by
  have hbias : (Format.binary64.exponentBias : Int) +
      Format.binary64.mantissaBitsWithoutImplicit = 1075 := rfl
  change UnpackedFloat.unpack .binary64 x.toModel.toBits.toBitVec = _ at hu
  generalize x.toModel.toBits.toBitVec = b at hu
  have hfield : (@unpackExponent .binary64 b).toNat < 2048 := BitVec.isLt _
  have hm : (@unpackMantissa .binary64 b).toNat < 2 ^ 52 := BitVec.isLt _
  unfold UnpackedFloat.unpack at hu
  dsimp only at hu
  rw [hbias] at hu
  by_cases hfull : @unpackExponent .binary64 b = -1#11
  · rw [if_pos hfull] at hu
    split_ifs at hu
  · rw [if_neg hfull] at hu
    by_cases hzero : @unpackExponent .binary64 b = 0#11
    · rw [if_pos hzero, hzero] at hu
      split_ifs at hu
      cases hu
      exact .inl ⟨hm, rfl⟩
    · rw [if_neg hzero] at hu
      cases hu
      have hpos : (@unpackExponent .binary64 b).toNat ≠ 0 :=
        fun h => hzero (BitVec.eq_of_toNat_eq h)
      have hmax : (@unpackExponent .binary64 b).toNat ≠ 2047 :=
        fun h => hfull (BitVec.eq_of_toNat_eq h)
      have hsignificand := toNat_impliedBit_append (@unpackMantissa .binary64 b)
      exact .inr ⟨by omega, by omega, by omega, by omega⟩

/-- The significands and exponents of the finite doubles. -/
theorem finite_bounds {x : Float} {s : Sign} {m : Nat} {e : Int} {h : 0 < m}
    (hu : x.toModel.unpack = .finite s m e h) : m < 2 ^ 53 ∧ -1074 ≤ e ∧ e ≤ 971 := by
  rcases subnormal_or_normal hu with hsub | hnormal <;> omega

lemma isFinite_unpack_packComponents {s : Sign} {e : BitVec 11} {m : BitVec 52} :
    (UnpackedFloat.unpack .binary64 (packComponents .binary64 s e m)).isFinite ↔ e ≠ -1#11 := by
  unfold UnpackedFloat.unpack
  simp only [unpackMantissa_packComponents, unpackExponent_packComponents]
  split_ifs with he <;> simp_all [UnpackedFloat.isFinite]

theorem isFinite_unpack_pack {s : Sign} {m : Nat} {e : Int} {h : 0 < m} :
    (UnpackedFloat.unpack .binary64 (UnpackedFloat.pack .binary64 (.finite s m e h))).isFinite ↔
      e ≤ 971 := by
  have hbias : (Format.binary64.exponentBias : Int) = 1023 := rfl
  unfold UnpackedFloat.pack
  dsimp only
  rw [hbias]
  split_ifs with hover hnormal
  · rw [packedInfinity, isFinite_unpack_packComponents]
    simp only [BitVec.reduceNeg, ne_eq, not_true_eq_false, false_iff, not_le]
    omega
  · rw [isFinite_unpack_packComponents, ne_eq, ← BitVec.toNat_inj, BitVec.toNat_ofNat]
    change ¬ _ % 2048 = 2047 ↔ _
    simp only [Nat.cast_ofNat]
    omega
  · rw [isFinite_unpack_packComponents]
    simp only [BitVec.reduceNeg, ne_eq, BitVec.reduceEq, not_false_eq_true, true_iff]
    omega

lemma strictSign?_unpack_packComponents {s : Sign} {e : BitVec 11} {m : BitVec 52}
    (hfull : e = -1#11 → m = 0#52) (hzero : e = 0#11 → m ≠ 0#52) :
    strictSign? (UnpackedFloat.unpack .binary64 (packComponents .binary64 s e m)) = some s := by
  unfold UnpackedFloat.unpack
  simp only [unpackMantissa_packComponents, unpackExponent_packComponents,
    unpackSign_packComponents, Sign.ofBitVec_toBitVec]
  by_cases he : e = -1#11
  · rw [if_pos he, if_pos (hfull he)]
    rfl
  · rw [if_neg he]
    by_cases hz : e = 0#11
    · rw [if_pos hz, dif_neg (hzero hz)]
      rfl
    · rw [if_neg hz]
      rfl

/-- A number at the precision of the doubles is not packed as zero. -/
theorem strictSign?_unpack_pack {s : Sign} {m : Nat} {e : Int} {h : 0 < m} (hm : m < 2 ^ 53)
    (he : -1074 ≤ e) :
    strictSign? (UnpackedFloat.unpack .binary64
      (UnpackedFloat.pack .binary64 (.finite s m e h))) = some s := by
  have hbias : (Format.binary64.exponentBias : Int) = 1023 := rfl
  have hbits : Format.binary64.mantissaBits = 53 := rfl
  unfold UnpackedFloat.pack
  dsimp only
  rw [hbias, hbits]
  split_ifs with hover hnormal
  · exact strictSign?_unpack_packComponents (fun _ => rfl) (fun h => absurd h (by decide))
  · refine strictSign?_unpack_packComponents (fun hf => absurd (congrArg BitVec.toNat hf) ?_)
      (fun hz => absurd (congrArg BitVec.toNat hz) ?_)
    · rw [BitVec.toNat_ofNat]
      change ¬ _ % 2048 = 2047
      simp only [Nat.cast_ofNat, Nat.reducePow] at *
      omega
    · rw [BitVec.toNat_ofNat]
      change ¬ _ % 2048 = 0
      simp only [Nat.cast_ofNat, Nat.reducePow] at *
      omega
  · have hlog : m.log2 < 53 := (Nat.log2_lt h.ne').2 hm
    have hsmall : m < 2 ^ 52 := (Nat.log2_lt h.ne').1 (by omega)
    refine strictSign?_unpack_packComponents (fun hf => absurd hf (by decide)) (fun _ hz => ?_)
    have hmod := congrArg BitVec.toNat hz
    rw [BitVec.toNat_ofNat, Nat.mod_eq_of_lt hsmall] at hmod
    exact h.ne' hmod

lemma unpack_packComponents_neg (s : Sign) (e : BitVec 11) (m : BitVec 52) :
    UnpackedFloat.unpack .binary64 (packComponents .binary64 (-s) e m) =
      (UnpackedFloat.unpack .binary64 (packComponents .binary64 s e m)).neg := by
  unfold UnpackedFloat.unpack
  simp only [unpackMantissa_packComponents, unpackExponent_packComponents,
    unpackSign_packComponents, Sign.ofBitVec_toBitVec]
  split_ifs <;> rfl

/-- Packing treats the sign apart from exponent and mantissa. -/
lemma unpack_pack_neg (u : UnpackedFloat) :
    UnpackedFloat.unpack .binary64 (UnpackedFloat.pack .binary64 u.neg) =
      (UnpackedFloat.unpack .binary64 (UnpackedFloat.pack .binary64 u)).neg := by
  match u with
  | .notANumber => rfl
  | .infinity s => exact unpack_packComponents_neg s _ _
  | .zero s => exact unpack_packComponents_neg s _ _
  | .finite s m e hm =>
    unfold UnpackedFloat.neg UnpackedFloat.pack
    dsimp only
    split_ifs
    · exact unpack_packComponents_neg s _ _
    · exact unpack_packComponents_neg s _ _
    · exact unpack_packComponents_neg s _ _

/-- Doubles are read back from their packed form as they are. -/
lemma unpack_pack_unpack (x : Float) :
    UnpackedFloat.unpack .binary64 (UnpackedFloat.pack .binary64 x.toModel.unpack) =
      x.toModel.unpack :=
  congrArg _ (pack_unpack_of_valid x.toModel.valid)

lemma ofModel_pack_unpack (x : Float) : Float.ofModel (.pack x.toModel.unpack) = x := by
  have hbits : (Float.Model.pack x.toModel.unpack).toBits = x.toModel.toBits :=
    congrArg UInt64.ofBitVec (pack_unpack_of_valid x.toModel.valid)
  exact congrArg Float.ofModel ((Float.Model.mk.injEq ..).mpr hbits)

theorem unpack_neg (x : Float) : (-x).toModel.unpack = x.toModel.unpack.neg := by
  change UnpackedFloat.unpack .binary64 (UnpackedFloat.pack .binary64 x.toModel.unpack.neg) = _
  rw [unpack_pack_neg, unpack_pack_unpack]

theorem neg_lt_zero {x : Float} (h : 0.0 < x) : -x < 0.0 := by
  rw [zero_lt_iff] at h
  rw [lt_zero_iff, unpack_neg]
  match x.toModel.unpack, h with
  | .infinity .positive, _ | .finite .positive .., _ => rfl

theorem isFinite_neg (x : Float) : (-x).isFinite ↔ x.isFinite := by
  change (-x).toModel.unpack.isFinite = true ↔ x.toModel.unpack.isFinite = true
  rw [unpack_neg]
  match x.toModel.unpack with
  | .notANumber | .infinity _ | .zero _ | .finite .. => exact Iff.rfl

/-- The magnitude of a double does not tell its sign. -/
theorem abs_neg (x : Float) : (-x).abs = x.abs := by
  have habs (u : UnpackedFloat) : u.neg.abs = u.abs := by cases u <;> rfl
  change Float.ofModel (.pack (-x).toModel.unpack.abs) = Float.ofModel (.pack x.toModel.unpack.abs)
  rw [unpack_neg, habs]

theorem isFinite_abs {x : Float} (h : x.isFinite) : x.abs.isFinite := by
  change x.toModel.unpack.isFinite = true at h
  change (UnpackedFloat.unpack .binary64 (UnpackedFloat.pack .binary64
    (UnpackedFloat.abs x.toModel.unpack))).isFinite = true
  match hu : x.toModel.unpack, h with
  | .zero s, _ => cases s <;> decide
  | .finite s m e hm, _ => exact isFinite_unpack_pack.2 (finite_bounds hu).2.2

end TradeCharts.Binary64
