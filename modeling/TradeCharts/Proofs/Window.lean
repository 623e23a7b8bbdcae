import Mathlib.Algebra.Order.Group.Unbundled.Int
import TradeCharts.Window

/-!
Buckets of a positive width. A bucket starts at a multiple of the width, holds its times and no
later ones, and later times never fall into earlier buckets.
-/
namespace TradeCharts.Window

variable {width s t : Int}

theorem bucketWidth_pos (window : Int) : 0 < bucketWidth window := by
  unfold bucketWidth
  split_ifs <;> omega

lemma bucketStart_eq (time : Int) (hw : 0 < width) :
    bucketStart time width = time / width * width := by
  rw [bucketStart, Int.fdiv_eq_ediv_of_nonneg _ hw.le]

lemma dvd_bucketStart (time width : Int) : width ∣ bucketStart time width :=
  Int.dvd_mul_left _ _

lemma bucketStart_le (time : Int) (hw : 0 < width) : bucketStart time width ≤ time := by
  rw [bucketStart_eq time hw]
  exact Int.ediv_mul_le time hw.ne'

lemma lt_bucketStart_add (time : Int) (hw : 0 < width) : time < bucketStart time width + width := by
  rw [bucketStart_eq time hw]
  have h := Int.lt_ediv_add_one_mul_self time hw
  rw [Int.add_mul, Int.one_mul] at h
  exact h

lemma bucketStart_add_mul (time k : Int) (hw : 0 < width) :
    bucketStart (time + k * width) width = bucketStart time width + k * width := by
  rw [bucketStart_eq _ hw, bucketStart_eq _ hw, Int.add_mul_ediv_right _ _ hw.ne', Int.add_mul]

lemma bucketStart_mono (hw : 0 < width) (h : s ≤ t) : bucketStart s width ≤ bucketStart t width := by
  rw [bucketStart_eq s hw, bucketStart_eq t hw]
  exact Int.mul_le_mul_of_nonneg_right (Int.ediv_le_ediv hw h) hw.le

end TradeCharts.Window
