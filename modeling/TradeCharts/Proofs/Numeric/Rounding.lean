import Mathlib.Tactic.Common
import TradeCharts.Numeric.Binary64

/-! Which whole numbers have a double nearest to them: those below the midpoint between the largest
double and the power of two above it. -/
namespace TradeCharts.Binary64

lemma twoTo_add (m n : Nat) : twoTo (m + n) = twoTo m * twoTo n :=
  Nat.pow_add 2 m n

lemma twoTo_le_twoTo {m n : Nat} (h : m ≤ n) : twoTo m ≤ twoTo n :=
  Nat.pow_le_pow_right (by decide) h

lemma twoTo_log2_le {n : Nat} (hn : n ≠ 0) : twoTo n.log2 ≤ n :=
  Nat.log2_self_le hn

lemma lt_twoTo_log2 (n : Nat) : n < twoTo (n.log2 + 1) :=
  Nat.lt_log2_self

lemma roundHalfEven_bounds (num den : Nat) :
    num / den ≤ roundHalfEven num den ∧ roundHalfEven num den ≤ num / den + 1 := by
  unfold roundHalfEven
  simp only
  split_ifs <;> omega

/-- Halves go to even numbers, so those below an even number are not rounded to it. -/
theorem roundHalfEven_lt_iff (num : Nat) {den m : Nat} (hd : 0 < den) (hm : m % 2 = 0) :
    roundHalfEven num den < m ↔ 2 * num + den < 2 * (den * m) := by
  have hnum := Nat.div_add_mod num den
  have hr := Nat.mod_lt num hd
  unfold roundHalfEven
  simp only
  generalize num / den = q at hnum ⊢
  generalize num % den = r at hnum hr ⊢
  have h1 (h : q + 1 ≤ m) : den * q + den ≤ den * m := by
    simpa [Nat.mul_add] using Nat.mul_le_mul_left den h
  have h2 (h : q + 2 ≤ m) : den * q + 2 * den ≤ den * m := by
    simpa [Nat.mul_add, Nat.mul_comm] using Nat.mul_le_mul_left den h
  have h3 (h : m ≤ q) : den * m ≤ den * q := Nat.mul_le_mul_left den h
  have h4 (h : m ≤ q + 1) : den * m ≤ den * q + den := by
    simpa [Nat.mul_add] using Nat.mul_le_mul_left den h
  split_ifs <;> omega

lemma floorLog2_one {n : Nat} (hn : n ≠ 0) : floorLog2 n 1 = n.log2 := by
  have hle := twoTo_log2_le hn
  have h1 : Nat.log2 1 = 0 := by decide
  unfold floorLog2
  simp only [h1]
  rw [if_pos]
  · simp
  · simpa using hle

lemma nearestBits_one {n : Nat} (hn : n ≠ 0) :
    nearestBits n 1 = min ((n.log2 + 1022) * impliedBit +
      roundHalfEven (n * twoTo (52 - n.log2)) (twoTo (n.log2 - 52))) infinityBits := by
  have he : max ((n.log2 : Int) - 52) (-1074) = n.log2 - 52 := by omega
  have hneg : (-((n.log2 : Int) - 52)).toNat = 52 - n.log2 := by omega
  have hpos : ((n.log2 : Int) - 52).toNat = n.log2 - 52 := by omega
  have hfield : ((n.log2 : Int) - 52 + 1074).toNat = n.log2 + 1022 := by omega
  unfold nearestBits
  simp only [if_neg hn, floorLog2_one hn, he, hneg, hpos, hfield, Nat.one_mul]

/-- A whole number with its leading bit moved to the place of the implied one. -/
lemma scaled_bounds {n : Nat} (hn : n ≠ 0) :
    twoTo (n.log2 - 52) * impliedBit ≤ n * twoTo (52 - n.log2) ∧
      n * twoTo (52 - n.log2) < twoTo (n.log2 - 52) * (2 * impliedBit) := by
  constructor
  · calc twoTo (n.log2 - 52) * impliedBit = twoTo n.log2 * twoTo (52 - n.log2) := by
          rw [show impliedBit = twoTo 52 from rfl, ← twoTo_add, ← twoTo_add]
          congr 1
          omega
      _ ≤ n * twoTo (52 - n.log2) := Nat.mul_le_mul_right _ (twoTo_log2_le hn)
  · calc n * twoTo (52 - n.log2) < twoTo (n.log2 + 1) * twoTo (52 - n.log2) :=
          Nat.mul_lt_mul_of_pos_right (lt_twoTo_log2 n) (twoTo_pos _)
      _ = twoTo (n.log2 - 52) * (2 * impliedBit) := by
          rw [show 2 * impliedBit = twoTo 53 from rfl, ← twoTo_add, ← twoTo_add]
          congr 1
          omega

/-- The significand of a whole number has 53 bits, the first of them set, unless it is rounded up to
the next power of two. -/
lemma significand_bounds {n : Nat} (hn : n ≠ 0) :
    impliedBit ≤ roundHalfEven (n * twoTo (52 - n.log2)) (twoTo (n.log2 - 52)) ∧
      roundHalfEven (n * twoTo (52 - n.log2)) (twoTo (n.log2 - 52)) ≤ 2 * impliedBit := by
  have hden := twoTo_pos (n.log2 - 52)
  obtain ⟨hlow, hhigh⟩ := scaled_bounds hn
  obtain ⟨hdown, hup⟩ := roundHalfEven_bounds (n * twoTo (52 - n.log2)) (twoTo (n.log2 - 52))
  constructor
  · rw [Nat.mul_comm] at hlow
    exact Nat.le_trans ((Nat.le_div_iff_mul_le hden).2 hlow) hdown
  · exact Nat.le_trans hup (Nat.div_lt_of_lt_mul hhigh)

/-- The least whole number that rounds beyond the doubles. -/
def overflowFrom : Nat := twoTo 1024 - twoTo 970

theorem nearestBits_lt_infinityBits_iff (n : Nat) :
    nearestBits n 1 < infinityBits ↔ n < overflowFrom := by
  have h970 := twoTo_pos 970
  have h971 : twoTo 971 = twoTo 970 * 2 := twoTo_succ 970
  have h1023 := twoTo_add 971 52
  have h1024 : twoTo 1024 = twoTo 1023 * 2 := twoTo_succ 1023
  rw [show twoTo 52 = 4503599627370496 from rfl, show 971 + 52 = 1023 from rfl] at h1023
  rcases Nat.eq_zero_or_pos n with rfl | hpos
  · refine iff_of_true (by decide) ?_
    unfold overflowFrom
    omega
  have hn : n ≠ 0 := by omega
  have hlow := twoTo_log2_le hn
  have hhigh := lt_twoTo_log2 n
  obtain ⟨hs1, hs2⟩ := significand_bounds hn
  rw [nearestBits_one hn]
  rcases Nat.lt_trichotomy n.log2 1023 with hl | hl | hl
  · have hpow : twoTo (n.log2 + 1) ≤ twoTo 1023 := twoTo_le_twoTo hl
    have hf : (n.log2 + 1022) * impliedBit ≤ 2044 * impliedBit := Nat.mul_le_mul_right _ (by omega)
    unfold impliedBit infinityBits overflowFrom at *
    omega
  · have hs := roundHalfEven_lt_iff (n * twoTo (52 - n.log2)) (twoTo_pos (n.log2 - 52))
      (show (2 * impliedBit) % 2 = 0 from rfl)
    rw [hl, show 52 - 1023 = 0 from rfl, twoTo_zero, show 1023 - 52 = 971 from rfl] at hs hs1 hs2 ⊢
    unfold impliedBit infinityBits overflowFrom at *
    omega
  · have hpow : twoTo 1024 ≤ twoTo n.log2 := twoTo_le_twoTo hl
    have hf : 2046 * impliedBit ≤ (n.log2 + 1022) * impliedBit := Nat.mul_le_mul_right _ (by omega)
    unfold impliedBit infinityBits overflowFrom at *
    omega

theorem ofInt?_isSome_iff (n : Int) : (ofInt? n).isSome ↔ n.natAbs < overflowFrom := by
  rw [← nearestBits_lt_infinityBits_iff, ofInt?]
  split_ifs with h
  · exact iff_of_true rfl h
  · exact iff_of_false (by simp) h

end TradeCharts.Binary64
