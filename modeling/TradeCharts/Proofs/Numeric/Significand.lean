import Mathlib
import TradeCharts.Proofs.Numeric.Rounding

/-!
How a positive number `m * 2 ^ e` is rounded to a significand of 53 bits. The bits lost by a shift
round to the nearest natural, a half to the even neighbour (`roundedMantissa_shift`). A number from
the least double up is therefore never rounded to zero, and it leaves the range of the doubles from
`overflowFrom` on (`rounded_inRange_iff`).
-/
namespace TradeCharts.Binary64

open Float.Model Float.Model.UnpackedFloat

/-- After a shift the round bit tells whether the lost part is at least a half, the sticky bit
whether it is neither nothing nor exactly a half. -/
lemma shift_eq (m k : Nat) :
    ExtendedMantissa.ofMantissaAndAccuracy m .exact >>> k =
      ⟨m / 2 ^ k, decide (2 ^ k ≤ 2 * (m % 2 ^ k)),
        decide (2 * (m % 2 ^ k) ≠ 0 ∧ 2 * (m % 2 ^ k) ≠ 2 ^ k)⟩ := by
  induction k with
  | zero =>
    change ExtendedMantissa.ofMantissaAndAccuracy m .exact = _
    simp [ExtendedMantissa.ofMantissaAndAccuracy, Nat.mod_one]
  | succ k ih =>
    have hr := Nat.mod_lt m (Nat.two_pow_pos k)
    change ExtendedMantissa.shiftRightOne
      (ExtendedMantissa.ofMantissaAndAccuracy m .exact >>> k) = _
    rw [ih, ExtendedMantissa.shiftRightOne, Nat.mod_pow_succ, Nat.pow_succ, ← Nat.div_div_eq_div_mul]
    generalize m / 2 ^ k = q at *
    generalize m % 2 ^ k = r at *
    generalize 2 ^ k = d at *
    -- the bit that moves out of the mantissa becomes the round bit
    rcases Nat.mod_two_eq_zero_or_one q with hq | hq
    · simp only [hq, ExtendedMantissa.mk.injEq, true_and, Nat.mul_zero, Nat.add_zero]
      refine ⟨by simp; omega, ?_⟩
      rw [← Bool.decide_or]
      exact decide_eq_decide.2 (by omega)
    · simp only [hq, ExtendedMantissa.mk.injEq, true_and, Nat.mul_one]
      refine ⟨by simp; omega, ?_⟩
      rw [← Bool.decide_or]
      exact decide_eq_decide.2 (by omega)

lemma roundedMantissa_mk (q : Nat) (r s : Bool) :
    (ExtendedMantissa.mk q r s).roundedMantissa =
      if r then if s then q + 1 else q + q % 2 else q := by
  cases r <;> cases s <;> rfl

theorem roundedMantissa_shift (m k : Nat) :
    (ExtendedMantissa.ofMantissaAndAccuracy m .exact >>> k).roundedMantissa =
      roundHalfEven m (2 ^ k) := by
  have hd := Nat.two_pow_pos k
  rw [shift_eq, roundedMantissa_mk]
  unfold roundHalfEven
  simp only [decide_eq_true_eq]
  generalize 2 ^ k = d at *
  split_ifs <;> omega

lemma log2_mul_two_pow {m : Nat} (hm : m ≠ 0) (k : Nat) : (m * 2 ^ k).log2 = m.log2 + k := by
  have hlow := Nat.log2_self_le hm
  have hhigh := Nat.lt_log2_self (n := m)
  have hmk : m * 2 ^ k ≠ 0 := by positivity
  rw [Nat.log2_eq_iff hmk]
  constructor
  · rw [Nat.pow_add]
    exact Nat.mul_le_mul_right _ hlow
  · rw [Nat.add_right_comm, Nat.pow_add]
    exact Nat.mul_lt_mul_of_pos_right hhigh (Nat.two_pow_pos k)

/-- The exponent that a number is rounded at. Its leading bit becomes the first of 53, unless that
takes an exponent below that of the least double. -/
def roundingExponent (m : Nat) (e : Int) : Int :=
  max (m.log2 + e - 52) (-1074)

/-- The significand of a number at its rounding exponent, which may carry into a 54th bit. -/
def roundedSignificand (m : Nat) (e : Int) : Nat :=
  roundHalfEven (m * 2 ^ (e - roundingExponent m e).toNat) (2 ^ (roundingExponent m e - e).toNat)

lemma targetExponent_eq (m : Nat) (e : Int) :
    Format.binary64.targetExponent (totalExponent m e) = roundingExponent m e := by
  change max ((m.log2 : Int) + 1 + e - 53) (-1074) = max (m.log2 + e - 52) (-1074)
  omega

lemma quotient_bounds {n k : Nat} (hn : n ≠ 0) (hlow : k ≤ n.log2) (hhigh : n.log2 ≤ 52 + k) :
    0 < n / 2 ^ k ∧ n / 2 ^ k < 2 ^ 53 := by
  constructor
  · exact Nat.div_pos ((Nat.le_log2 hn).1 hlow) (Nat.two_pow_pos k)
  · rw [Nat.div_lt_iff_lt_mul (Nat.two_pow_pos k), ← Nat.pow_add]
    exact (Nat.log2_lt hn).1 (by omega)

theorem roundedSignificand_bounds {m : Nat} (hm : m ≠ 0) {e : Int} (he : -1074 ≤ e) :
    0 < roundedSignificand m e ∧ roundedSignificand m e ≤ 2 ^ 53 := by
  have hlog := log2_mul_two_pow hm (e - roundingExponent m e).toNat
  have hscaled : m * 2 ^ (e - roundingExponent m e).toNat ≠ 0 := by positivity
  obtain ⟨hpos, hlt⟩ := quotient_bounds (k := (roundingExponent m e - e).toNat) hscaled
    (by unfold roundingExponent at *; omega) (by unfold roundingExponent at *; omega)
  have hround := roundHalfEven_bounds (m * 2 ^ (e - roundingExponent m e).toNat)
    (2 ^ (roundingExponent m e - e).toNat)
  unfold roundedSignificand
  omega

lemma shiftToTargetExponent_eq (m : Nat) (e : Int) :
    shiftToTargetExponent .binary64 m e .exact =
      (ExtendedMantissa.ofMantissaAndAccuracy m .exact >>> (roundingExponent m e - e).toNat,
        e + (roundingExponent m e - e).toNat) := by
  unfold shiftToTargetExponent
  simp only [targetExponent_eq]
  rfl

lemma shiftToTargetExponent_of_lt {m : Nat} {e : Int} (hm : m < 2 ^ 53) (he : -1074 ≤ e) :
    shiftToTargetExponent .binary64 m e .exact = (⟨m, false, false⟩, e) := by
  have hlog : m.log2 ≤ 52 := by
    rcases Nat.eq_zero_or_pos m with rfl | hpos
    · decide
    · exact Nat.lt_succ_iff.1 ((Nat.log2_lt hpos.ne').2 hm)
  have hk : (roundingExponent m e - e).toNat = 0 := by
    unfold roundingExponent
    omega
  rw [shiftToTargetExponent_eq, hk, Nat.cast_zero, Int.add_zero]
  rfl

lemma shiftToTargetExponent_carry {e : Int} (he : -1074 ≤ e) :
    shiftToTargetExponent .binary64 (2 ^ 53) e .exact = (⟨2 ^ 52, false, false⟩, e + 1) := by
  have hk : (roundingExponent (2 ^ 53) e - e).toNat = 1 := by
    unfold roundingExponent
    rw [Nat.log2_two_pow]
    omega
  rw [shiftToTargetExponent_eq, hk]
  rfl

/-- A positive number is rounded once; a carry out of the significand moves into the exponent. -/
theorem round_eq {m : Nat} (hm : m ≠ 0) {e : Int} (he : -1074 ≤ e) :
    round .binary64 .positive m e =
      if roundedSignificand m e < 2 ^ 53 then
        .finite .positive (roundedSignificand m e) (roundingExponent m e)
          (roundedSignificand_bounds hm he).1
      else .finite .positive (2 ^ 52) (roundingExponent m e + 1) (by decide) := by
  obtain ⟨hpos, hle⟩ := roundedSignificand_bounds hm he
  have hmin : -1074 ≤ roundingExponent m e := Int.le_max_right _ _
  have hexp : roundingExponent (m * 2 ^ (e - roundingExponent m e).toNat)
      (e - (e - roundingExponent m e).toNat) = roundingExponent m e := by
    unfold roundingExponent
    rw [log2_mul_two_pow hm]
    omega
  have hup : (roundingExponent m e - (e - (e - roundingExponent m e).toNat)).toNat =
      (roundingExponent m e - e).toNat := by omega
  have hreached : e - (e - roundingExponent m e).toNat + (roundingExponent m e - e).toNat =
      roundingExponent m e := by omega
  unfold UnpackedFloat.round decreaseExponent roundWithAccuracy
  simp only [targetExponent_eq, Nat.shiftLeft_eq, shiftToTargetExponent_eq (m * _), hexp, hup,
    hreached, roundedMantissa_shift, ← roundedSignificand.eq_1]
  by_cases hlt : roundedSignificand m e < 2 ^ 53
  · simp only [shiftToTargetExponent_of_lt hlt hmin, if_pos hlt, dif_neg hpos.ne']
  · have hmax : roundedSignificand m e = 2 ^ 53 := by omega
    simp only [hmax, shiftToTargetExponent_carry hmin]
    rfl

lemma overflowFrom_pos : 0 < overflowFrom := by
  have hdouble : twoTo 971 = twoTo 970 * 2 := twoTo_succ 970
  have hle : twoTo 971 ≤ twoTo 1024 := twoTo_le_twoTo (by decide)
  have hpos := twoTo_pos 970
  unfold overflowFrom
  omega

lemma overflowFrom_mul : overflowFrom * twoTo 1074 = twoTo 2098 - twoTo 2044 := by
  have htop : twoTo 2098 = twoTo 1024 * twoTo 1074 := twoTo_add 1024 1074
  have hhalf : twoTo 2044 = twoTo 970 * twoTo 1074 := twoTo_add 970 1074
  rw [overflowFrom, Nat.sub_mul, htop, hhalf]

lemma twoTo_2098 : twoTo 2098 = twoTo 2045 * 2 ^ 53 := by
  rw [show twoTo 2098 = twoTo 2045 * twoTo 53 from twoTo_add 2045 53,
    show twoTo 53 = 2 ^ 53 from rfl]

/-- Next to the limit the significand carries from half a unit below the next power of two on. -/
lemma roundedSignificand_lt_iff {m : Nat} {e : Int} (hmin : -1074 ≤ e) (hmax : e ≤ 971)
    (hl : m.log2 + e = 1023) :
    roundedSignificand m e < 2 ^ 53 ↔
      2 * (m * twoTo (e + 1074).toNat) + twoTo 2045 < 2 * (twoTo 2045 * 2 ^ 53) := by
  have hexp : roundingExponent m e = 971 := by unfold roundingExponent; omega
  have hdown : (e - 971).toNat = 0 := by omega
  have hsig : roundedSignificand m e = roundHalfEven m (twoTo (971 - e).toNat) := by
    rw [roundedSignificand, hexp, hdown, Nat.pow_zero, Nat.mul_one]
    rfl
  have hround := roundHalfEven_lt_iff m (twoTo_pos (971 - e).toNat) (show 2 ^ 53 % 2 = 0 from rfl)
  have hunit : twoTo (971 - e).toNat * twoTo (e + 1074).toNat = twoTo 2045 := by
    rw [← twoTo_add]
    exact congrArg twoTo (by omega)
  rw [hsig, hround, ← Nat.mul_lt_mul_right (twoTo_pos (e + 1074).toNat), ← hunit]
  ring_nf

/-- A rounded number has an exponent of the doubles when the number is less than the least whole
number that rounds beyond them. Both sides count in units of the least double. -/
theorem rounded_inRange_iff {m : Nat} (hm : m ≠ 0) {e : Int} (hmin : -1074 ≤ e) (hmax : e ≤ 971) :
    (if roundedSignificand m e < 2 ^ 53 then roundingExponent m e
        else roundingExponent m e + 1) ≤ 971 ↔
      m * twoTo (e + 1074).toNat < overflowFrom * twoTo 1074 := by
  have hlow : twoTo (m.log2 + (e + 1074).toNat) ≤ m * twoTo (e + 1074).toNat := by
    rw [twoTo_add]
    exact Nat.mul_le_mul_right _ (twoTo_log2_le hm)
  have hhigh : m * twoTo (e + 1074).toNat < twoTo (m.log2 + 1 + (e + 1074).toNat) := by
    rw [twoTo_add]
    exact Nat.mul_lt_mul_of_pos_right (lt_twoTo_log2 m) (twoTo_pos _)
  have hlimit := overflowFrom_mul
  have htop := twoTo_2098
  have h2045 : twoTo 2045 = twoTo 2044 * 2 := twoTo_succ 2044
  have h2098 : twoTo 2098 = twoTo 2097 * 2 := twoTo_succ 2097
  have h2097 : twoTo 2045 ≤ twoTo 2097 := twoTo_le_twoTo (by decide)
  -- only numbers with their leading bit just below the limit need their significand
  rcases lt_trichotomy (m.log2 + e) 1023 with hl | hl | hl
  · have hpow : twoTo (m.log2 + 1 + (e + 1074).toNat) ≤ twoTo 2097 := twoTo_le_twoTo (by omega)
    have hexp : roundingExponent m e ≤ 970 := by unfold roundingExponent; omega
    refine iff_of_true ?_ (by omega)
    split_ifs <;> omega
  · have hexp : roundingExponent m e = 971 := by unfold roundingExponent; omega
    have hcarry := roundedSignificand_lt_iff hmin hmax hl
    rw [hexp, hlimit]
    split_ifs with hlt
    · have := hcarry.1 hlt
      omega
    · have := mt hcarry.2 hlt
      omega
  · have hpow : twoTo 2098 ≤ twoTo (m.log2 + (e + 1074).toNat) := twoTo_le_twoTo (by omega)
    have hexp : 972 ≤ roundingExponent m e := by unfold roundingExponent; omega
    refine iff_of_false ?_ (by omega)
    split_ifs <;> omega

end TradeCharts.Binary64
