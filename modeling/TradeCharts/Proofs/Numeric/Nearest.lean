import TradeCharts.Proofs.Numeric.Order

/-!
The doubles of whole numbers are nearest to them (`isNearest_of_ofInt?`). The significand is a
rounded quotient, so no other multiple of its unit is nearer; a finite double that is no multiple of
that unit lies below the leading bit. Whole numbers in order have doubles in order
(`le_of_ofInt?`).
-/
namespace TradeCharts.Binary64

open Float.Model Float.Model.UnpackedFloat

/-- A finite double that no other is nearer to a number than; of two that are as near it is the one
with the even significand. It is negative just below zero. -/
structure IsNearest (x : Float) (q : ℚ) : Prop where
  finite : x.isFinite
  nearest : ∀ y : Float, y.isFinite → |toRat x - q| ≤ |toRat y - q|
  even : ∀ y : Float, y.isFinite → |toRat y - q| = |toRat x - q| → toRat y ≠ toRat x →
    x.toBits.toNat % 2 = 0
  sign : isNegative x ↔ q < 0

section

variable (b : BitVec Format.binary64.numBits)

lemma toNat_unpackMantissa : (unpackMantissa b).toNat = b.toNat % impliedBit := by
  simp [unpackMantissa, impliedBit]

lemma toNat_unpackExponent : (unpackExponent b).toNat = b.toNat / impliedBit % 2048 := by
  simp [unpackExponent, Nat.shiftRight_eq_div_pow, impliedBit]

lemma toNat_unpackSign : (unpackSign b).toNat = b.toNat / signBit % 2 := by
  simp [unpackSign, Nat.shiftRight_eq_div_pow, signBit]

variable {b} (h : b.toNat < infinityBits)

include h

lemma unpackSign_of_lt : unpackSign b = 0#1 := by
  refine BitVec.eq_of_toNat_eq ?_
  unfold infinityBits at h
  rw [toNat_unpackSign, BitVec.toNat_ofNat]
  unfold signBit
  omega

lemma toNat_unpackExponent_of_lt : (unpackExponent b).toNat = b.toNat / impliedBit := by
  unfold infinityBits at h
  rw [toNat_unpackExponent]
  unfold impliedBit
  omega

lemma unpackExponent_ne_full : unpackExponent b ≠ -1#11 := by
  intro hfull
  have hfield := congrArg BitVec.toNat hfull
  rw [toNat_unpackExponent_of_lt h] at hfield
  change b.toNat / impliedBit = 2047 at hfield
  unfold infinityBits at h
  unfold impliedBit at hfield
  omega

lemma unpackExponent_eq_zero_iff : unpackExponent b = 0#11 ↔ b.toNat < impliedBit := by
  have hpos : 0 < impliedBit := by decide
  rw [← Nat.div_eq_zero_iff_lt hpos, ← toNat_unpackExponent_of_lt h, ← BitVec.toNat_inj]
  rfl

end

lemma toNat_toUInt64 {k : Nat} (hk : k < infinityBits) : k.toUInt64.toNat = k := by
  unfold infinityBits at hk
  exact Nat.mod_eq_of_lt (by omega)

/-- Bits below those of infinity are those of a double. -/
lemma toBits_ofBits {k : Nat} (hk : k < infinityBits) :
    (Float.ofBits k.toUInt64).toBits = k.toUInt64 := by
  have hlt : k.toUInt64.toBitVec.toNat < infinityBits := (toNat_toUInt64 hk).trans_lt hk
  change UInt64.ofBitVec (UnpackedFloat.pack .binary64
    (UnpackedFloat.unpack .binary64 k.toUInt64.toBitVec)) = _
  rw [pack_unpack_of_valid ⟨fun hfull => absurd hfull (unpackExponent_ne_full hlt)⟩]

variable {x : Float}

lemma unpack_eq (x : Float) :
    x.toModel.unpack = UnpackedFloat.unpack .binary64 x.toBits.toBitVec := rfl

lemma isFinite_of_toBits_lt (h : x.toBits.toNat < infinityBits) : x.isFinite := by
  rw [isFinite_eq, unpack_eq]
  unfold UnpackedFloat.unpack
  dsimp only
  rw [if_neg (unpackExponent_ne_full h)]
  split_ifs <;> rfl

lemma magnitudeBits_eq (h : x.toBits.toNat < infinityBits) :
    magnitudeBits x = x.toBits.toNat := by
  unfold infinityBits at h
  unfold magnitudeBits signBit
  omega

/-- The value of a double is told by its bits. -/
lemma toRat_eq_dyadic (h : x.toBits.toNat < infinityBits) :
    toRat x = (dyadic x).significand * 2 ^ (dyadic x).exponent := by
  have hmantissa := toNat_unpackMantissa x.toBits.toBitVec
  have hfield := toNat_unpackExponent_of_lt h
  have hzero := unpackExponent_eq_zero_iff h
  change _ = x.toBits.toNat % _ at hmantissa
  change _ = x.toBits.toNat / _ at hfield
  change _ ↔ x.toBits.toNat < _ at hzero
  rw [toRat, unpack_eq, dyadic, magnitudeBits_eq h]
  unfold UnpackedFloat.unpack
  dsimp only
  rw [unpackSign_of_lt h, if_neg (unpackExponent_ne_full h)]
  by_cases hk : x.toBits.toNat < impliedBit
  · rw [Nat.mod_eq_of_lt hk] at hmantissa
    rw [if_pos (hzero.2 hk), hzero.2 hk, if_pos hk]
    split_ifs with hvoid
    · rw [hvoid] at hmantissa
      simp [← hmantissa]
    · change ((@unpackMantissa .binary64 x.toBits.toBitVec).toNat : ℚ) * 2 ^ (-1074 : Int) = _
      rw [hmantissa]
  · have hsignificand := toNat_impliedBit_append (@unpackMantissa .binary64 x.toBits.toBitVec)
    rw [hmantissa] at hsignificand
    rw [if_neg (mt hzero.1 hk), if_neg hk, hfield]
    change (((1#1 ++ @unpackMantissa .binary64 x.toBits.toBitVec).toNat : Nat) : ℚ) * 2 ^ _ = _
    rw [hsignificand]
    rfl

/-- A significand that is rounded up to the next power of two carries into the exponent. -/
lemma dyadic_of_magnitudeBits {f s : Nat} (hbits : magnitudeBits x = f * impliedBit + s)
    (hlow : impliedBit ≤ s) (hhigh : s ≤ 2 * impliedBit) :
    ((dyadic x).significand : ℚ) * 2 ^ (dyadic x).exponent = s * 2 ^ (f - 1074 : Int) := by
  have hpos : 0 < impliedBit := by decide
  have hnormal : ¬ f * impliedBit + s < impliedBit := by omega
  rw [dyadic, hbits, if_neg hnormal]
  rcases hhigh.lt_or_eq with hlt | rfl
  · have hs : s / impliedBit = 1 := Nat.div_eq_of_lt_le (by omega) (by omega)
    have hdiv : (f * impliedBit + s) / impliedBit = f + 1 := by
      rw [Nat.mul_comm, Nat.mul_add_div hpos, hs]
    have hmod : impliedBit + (f * impliedBit + s) % impliedBit = s := by
      rw [Nat.mul_comm, Nat.mul_add_mod, Nat.mod_eq_sub_mod hlow, Nat.mod_eq_of_lt (by omega)]
      omega
    have hexp : ((f + 1 : Nat) : Int) - 1075 = f - 1074 := by omega
    rw [hdiv, hmod, hexp]
  · have hdiv : (f * impliedBit + 2 * impliedBit) / impliedBit = f + 2 := by
      rw [← Nat.add_mul, Nat.mul_div_cancel _ hpos]
    have hmod : (f * impliedBit + 2 * impliedBit) % impliedBit = 0 := by
      rw [← Nat.add_mul, Nat.mul_mod_left]
    have hexp : ((f + 2 : Nat) : Int) - 1075 = f - 1074 + 1 := by omega
    rw [hdiv, hmod, hexp, zpow_add_one₀ (by norm_num)]
    push_cast
    ring

lemma roundHalfEven_cases (num den : Nat) :
    (roundHalfEven num den = num / den ∧ 2 * (num % den) ≤ den ∧
        (2 * (num % den) = den → num / den % 2 = 0)) ∨
      (roundHalfEven num den = num / den + 1 ∧ den ≤ 2 * (num % den) ∧
        (2 * (num % den) = den → (num / den + 1) % 2 = 0)) := by
  unfold roundHalfEven
  simp only
  split_ifs <;> omega

/-- A rounded quotient is off by at most a half, and by just that only if it is even. -/
lemma roundHalfEven_error (num : Nat) {den : Nat} (hd : 0 < den) :
    |(roundHalfEven num den : ℚ) - num / den| ≤ 1 / 2 ∧
      (|(roundHalfEven num den : ℚ) - num / den| = 1 / 2 → roundHalfEven num den % 2 = 0) := by
  have hden : (0 : ℚ) < den := Nat.cast_pos.2 hd
  have herror : |(roundHalfEven num den : ℚ) - num / den| =
      ((roundHalfEven num den * den : Int) - num).natAbs / den := by
    rw [Nat.cast_natAbs, sub_div' hden.ne', abs_div, abs_of_pos hden]
    push_cast
    rfl
  have hdiv := Nat.div_add_mod' num den
  have hmod := Nat.mod_lt num hd
  have hbounds : 2 * ((roundHalfEven num den * den : Int) - num).natAbs ≤ den ∧
      (2 * ((roundHalfEven num den * den : Int) - num).natAbs = den →
        roundHalfEven num den % 2 = 0) := by
    rcases roundHalfEven_cases num den with ⟨hround, hhalf, heven⟩ | ⟨hround, hhalf, heven⟩
    · rw [hround, ← Int.natCast_mul]
      omega
    · rw [hround, ← Int.natCast_mul, Nat.add_mul]
      omega
  rw [herror, div_le_div_iff₀ hden two_pos, div_eq_div_iff hden.ne' two_ne_zero]
  constructor
  · rw [one_mul, mul_comm]
    exact_mod_cast hbounds.1
  · intro h
    rw [one_mul, mul_comm] at h
    exact hbounds.2 (by exact_mod_cast h)

/-- No whole number is nearer than the rounded one, and one as near leaves that even. -/
lemma roundHalfEven_nearest (num : Nat) {den : Nat} (hd : 0 < den) (k : Int) :
    |(roundHalfEven num den : ℚ) - num / den| ≤ |k - (num / den : ℚ)| ∧
      (|k - (num / den : ℚ)| = |(roundHalfEven num den : ℚ) - num / den| →
        k ≠ roundHalfEven num den → roundHalfEven num den % 2 = 0) := by
  obtain ⟨hhalf, heven⟩ := roundHalfEven_error num hd
  generalize roundHalfEven num den = s at *
  generalize (num : ℚ) / den = q at *
  by_cases hk : k = s
  · rw [hk, Int.cast_natCast]
    exact ⟨le_rfl, fun _ hne => absurd rfl hne⟩
  have hone : (1 : ℚ) ≤ |(k : ℚ) - s| := by
    have habs : 1 ≤ |k - s| := Int.one_le_abs (sub_ne_zero.2 hk)
    exact_mod_cast habs
  have htriangle : |(k : ℚ) - s| ≤ |k - q| + |s - q| := by
    rw [abs_sub_comm (s : ℚ) q]
    exact abs_sub_le _ _ _
  refine ⟨by linarith, fun htie _ => heven ?_⟩
  linarith

/-- A finite double is a multiple of a power of two, or its magnitude is below that power with 52
more digits. -/
lemma multiple_or_small {y : Float} (hy : y.isFinite) (e : Int) :
    (∃ k : Int, toRat y = k * 2 ^ e) ∨ |toRat y| < impliedBit * 2 ^ e := by
  rw [isFinite_eq] at hy
  match hu : y.toModel.unpack, hy with
  | .zero _, _ => exact .inl ⟨0, by rw [toRat_zero hu, Int.cast_zero, zero_mul]⟩
  | .finite s m f hm, _ =>
    have hvalue : toRat y = (s.apply m : ℚ) * 2 ^ f := by rw [toRat, hu]
    rcases le_or_gt e f with hle | hlt
    · refine .inl ⟨s.apply (m : Int) * 2 ^ (f - e).toNat, ?_⟩
      have hexp : (2 : ℚ) ^ (f - e).toNat * 2 ^ e = 2 ^ f := by
        rw [← zpow_natCast, ← zpow_add₀ two_ne_zero]
        congr 1
        omega
      rw [hvalue, ← hexp]
      push_cast
      ring
    · have hmax := (finite_bounds hu).1
      have habs : |toRat y| = m * 2 ^ f := by
        have hsign : |((s.apply m : Int) : ℚ)| = m := by cases s <;> simp [Sign.apply]
        rw [hvalue, abs_mul, hsign, abs_of_pos (zpow_pos two_pos f)]
      have hstep : (2 : ℚ) ^ f * 2 ≤ 2 ^ e := by
        rw [← zpow_add_one₀ two_ne_zero]
        exact zpow_le_zpow_right₀ one_le_two (by omega)
      have hsig : (m : ℚ) < 2 * impliedBit := by
        have : m < 2 * impliedBit := hmax
        exact_mod_cast this
      refine .inr ?_
      have hpos : (0 : ℚ) < 2 ^ f := zpow_pos two_pos f
      have himplied : (0 : ℚ) < impliedBit := by norm_num [impliedBit]
      rw [habs]
      nlinarith

lemma toBits_of_ofInt? {n : Nat} {x : Float} (h : ofInt? n = some x) :
    x.toBits.toNat = nearestBits n 1 ∧ nearestBits n 1 < infinityBits := by
  rw [ofInt?] at h
  split_ifs at h with hfinite
  rw [Int.natAbs_natCast] at hfinite
  have hx : x = Float.ofBits (nearestBits n 1).toUInt64 := by
    have hneg : decide ((n : Int) < 0) = false := decide_eq_false (by omega)
    rw [hneg] at h
    exact (Option.some.inj h).symm
  rw [hx, toBits_ofBits hfinite]
  exact ⟨toNat_toUInt64 hfinite, hfinite⟩

def wholeSignificand (n : Nat) : Nat :=
  roundHalfEven (n * twoTo (52 - n.log2)) (twoTo (n.log2 - 52))

/-- The quotient that is rounded to the significand of a whole number. -/
lemma scaled_quotient (n : Nat) :
    ((n * twoTo (52 - n.log2) : Nat) / (twoTo (n.log2 - 52) : Nat) : ℚ) *
      2 ^ (n.log2 - 52 : Int) = n := by
  have hden : ((twoTo (n.log2 - 52) : Nat) : ℚ) ≠ 0 := Nat.cast_ne_zero.2 (twoTo_pos _).ne'
  have hexp : (2 : ℚ) ^ ((n.log2 : Int) - 52) * (twoTo (52 - n.log2) : Nat) =
      (twoTo (n.log2 - 52) : Nat) := by
    rw [cast_twoTo, cast_twoTo, ← zpow_add₀ two_ne_zero]
    congr 1
    omega
  rw [div_mul_eq_mul_div, div_eq_iff hden, ← hexp]
  push_cast
  ring

lemma toRat_of_ofInt? {n : Nat} (hn : n ≠ 0) {x : Float} (h : ofInt? n = some x) :
    toRat x = wholeSignificand n * 2 ^ (n.log2 - 52 : Int) ∧
      x.toBits.toNat % 2 = wholeSignificand n % 2 := by
  obtain ⟨hbits, hfinite⟩ := toBits_of_ofInt? h
  have hlow : impliedBit ≤ wholeSignificand n := (significand_bounds hn).1
  have hhigh : wholeSignificand n ≤ 2 * impliedBit := (significand_bounds hn).2
  have heq : nearestBits n 1 = (n.log2 + 1022) * impliedBit + wholeSignificand n := by
    have hmin := nearestBits_one hn
    rw [hmin] at hfinite
    rw [hmin, min_eq_left (by omega)]
    rfl
  have hexp : ((n.log2 + 1022 : Nat) : Int) - 1074 = n.log2 - 52 := by omega
  have hlt : x.toBits.toNat < infinityBits := hbits ▸ hfinite
  have hmagnitude : magnitudeBits x = (n.log2 + 1022) * impliedBit + wholeSignificand n := by
    rw [magnitudeBits_eq hlt, hbits, heq]
  constructor
  · rw [toRat_eq_dyadic hlt, dyadic_of_magnitudeBits hmagnitude hlow hhigh, hexp]
  · have himplied : impliedBit % 2 = 0 := rfl
    rw [hbits, heq, Nat.add_mod, Nat.mul_mod, himplied, Nat.mul_zero, Nat.zero_mod, Nat.zero_add,
      Nat.mod_mod]

lemma impliedBit_le_quotient {n : Nat} (hn : n ≠ 0) :
    (impliedBit : ℚ) ≤ (n * twoTo (52 - n.log2) : Nat) / (twoTo (n.log2 - 52) : Nat) := by
  have hden : (0 : ℚ) < (twoTo (n.log2 - 52) : Nat) := Nat.cast_pos.2 (twoTo_pos _)
  have hlow := (scaled_bounds hn).1
  rw [le_div_iff₀ hden, mul_comm]
  exact_mod_cast hlow

lemma isNearest_zero {x : Float} (hfinite : x.isFinite) (hvalue : toRat x = 0)
    (hsign : ¬ isNegative x) : IsNearest x 0 where
  finite := hfinite
  nearest y _ := by simp [hvalue]
  even y _ htie hne := by
    rw [hvalue, sub_zero, sub_zero, abs_zero, abs_eq_zero] at htie
    exact absurd (htie.trans hvalue.symm) hne
  sign := iff_of_false hsign (lt_irrefl 0)

/-- What is rounded to the nearest whole multiple of a unit, and has 52 more digits than that unit, is
rounded to the nearest double. -/
lemma isNearest_of_scaled {x : Float} {s : Nat} {v : ℚ} {e : Int} (hfinite : x.isFinite)
    (hsign : ¬ isNegative x) (hvalue : toRat x = s * 2 ^ e)
    (hparity : x.toBits.toNat % 2 = s % 2) (hlow : (impliedBit : ℚ) ≤ v)
    (hround : ∀ k : Int, |(s : ℚ) - v| ≤ |k - v| ∧
      (|k - v| = |(s : ℚ) - v| → k ≠ s → s % 2 = 0)) : IsNearest x (v * 2 ^ e) := by
  have hunit : (0 : ℚ) < 2 ^ e := zpow_pos two_pos e
  have hv : 0 ≤ v := (Nat.cast_nonneg impliedBit).trans hlow
  have hdistance (w : ℚ) : |w * 2 ^ e - v * 2 ^ e| = |w - v| * 2 ^ e := by
    rw [← sub_mul, abs_mul, abs_of_pos hunit]
  -- what is no multiple of the unit lies below the leading bit, and is farther away than that
  have hsmall {y : Float} (hy : |toRat y| < impliedBit * 2 ^ e) :
      |toRat x - v * 2 ^ e| < |toRat y - v * 2 ^ e| := by
    have hfirst := mul_le_mul_of_nonneg_right (hround impliedBit).1 hunit.le
    have hgap : |((impliedBit : Int) : ℚ) - v| = v - impliedBit := by
      rw [Int.cast_natCast, abs_sub_comm, abs_of_nonneg (sub_nonneg.2 hlow)]
    have hbelow := (abs_lt.1 hy).2
    rw [hvalue, hdistance]
    calc |(s : ℚ) - v| * 2 ^ e ≤ (v - impliedBit) * 2 ^ e := by rwa [hgap] at hfirst
      _ < v * 2 ^ e - toRat y := by linarith
      _ ≤ |toRat y - v * 2 ^ e| := by
        rw [abs_sub_comm]
        exact le_abs_self _
  refine ⟨hfinite, fun y hy => ?_, fun y hy htie hne => ?_, iff_of_false hsign ?_⟩
  · rcases multiple_or_small hy e with ⟨k, hk⟩ | hlt
    · rw [hvalue, hk, hdistance, hdistance]
      exact mul_le_mul_of_nonneg_right (hround k).1 hunit.le
    · exact (hsmall hlt).le
  · rcases multiple_or_small hy e with ⟨k, hk⟩ | hlt
    · rw [hvalue, hk, hdistance, hdistance] at htie
      rw [hparity]
      refine (hround k).2 (mul_right_cancel₀ hunit.ne' htie) fun heq => hne ?_
      rw [hk, hvalue, heq, Int.cast_natCast]
    · exact absurd htie (hsmall hlt).ne'
  · exact not_lt.2 (mul_nonneg hv hunit.le)

/-- The double of a whole number that is not below zero is nearest to it. -/
theorem isNearest_of_ofInt? {n : Int} (hn : 0 ≤ n) {x : Float} (h : ofInt? n = some x) :
    IsNearest x n := by
  obtain ⟨n, rfl⟩ := Int.eq_ofNat_of_zero_le hn
  obtain ⟨hbits, hfinite⟩ := toBits_of_ofInt? h
  have hlt : x.toBits.toNat < infinityBits := hbits ▸ hfinite
  have hsign : ¬ isNegative x := by
    rw [isNegative, decide_eq_true_eq]
    unfold infinityBits at hlt
    unfold signBit
    omega
  rcases Nat.eq_zero_or_pos n with rfl | hpos
  · have hvalue : toRat x = 0 := by
      rw [toRat_eq_dyadic hlt, dyadic, magnitudeBits_eq hlt, hbits]
      simp [nearestBits, impliedBit]
    exact_mod_cast isNearest_zero (isFinite_of_toBits_lt hlt) hvalue hsign
  · obtain ⟨hvalue, hparity⟩ := toRat_of_ofInt? hpos.ne' h
    rw [Int.cast_natCast, ← scaled_quotient n]
    exact isNearest_of_scaled (isFinite_of_toBits_lt hlt) hsign hvalue hparity
      (impliedBit_le_quotient hpos.ne') (roundHalfEven_nearest _ (twoTo_pos _))

lemma IsNearest.toRat_le {x y : Float} {p q : ℚ} (hx : IsNearest x p) (hy : IsNearest y q)
    (h : p < q) : toRat x ≤ toRat y := by
  have hnear := sq_le_sq.2 (hx.nearest y hy.finite)
  have hnear' := sq_le_sq.2 (hy.nearest x hx.finite)
  by_contra hlt
  nlinarith

/-- Rounding whole numbers keeps their order. -/
theorem le_of_ofInt? {m n : Int} (hm : 0 ≤ m) (h : m ≤ n) {x y : Float} (hx : ofInt? m = some x)
    (hy : ofInt? n = some y) : x ≤ y := by
  have hnear := isNearest_of_ofInt? hm hx
  have hnear' := isNearest_of_ofInt? (hm.trans h) hy
  rw [le_iff_toRat_le hnear.finite hnear'.finite]
  rcases h.lt_or_eq with hlt | rfl
  · exact hnear.toRat_le hnear' (Int.cast_lt.2 hlt)
  · rw [hx] at hy
    rw [Option.some.inj hy]

end TradeCharts.Binary64
