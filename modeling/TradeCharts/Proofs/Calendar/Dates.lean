import Mathlib.Algebra.GroupWithZero.Nat
import Mathlib.Tactic.Common
import TradeCharts.Proofs.Calendar

/-! The date of a day determines the day, and already month and day of the month do so among the
days of one year's length: the year itself can be left out where a shorter span is shown. -/
namespace TradeCharts.Calendar

/-- A year has the days of its months. -/
lemma daysBeforeYear_succ (y : Int) :
    daysBeforeYear (y + 1) = daysBeforeYear y + (monthLengths (isLeap y)).sum := by
  rw [daysBeforeYear_eq, daysBeforeYear_eq]
  cases h : isLeap y with
  | true =>
    simp only [isLeap, Bool.and_eq_true, Bool.or_eq_true, beq_iff_eq, bne_iff_ne] at h
    rw [show ((monthLengths true).sum : Int) = 366 from rfl]
    omega
  | false =>
    simp only [isLeap, Bool.and_eq_false_iff, Bool.or_eq_false_iff, beq_eq_false_iff_ne,
      bne_eq_false_iff_eq] at h
    rw [show ((monthLengths false).sum : Int) = 365 from rfl]
    omega

/-- The days of the months before a place in the year, and those of its month up to it. -/
lemma splitMonths_spec (month : Nat) (lens : List Nat) {n : Nat} (h : n < lens.sum) :
    ∃ i < lens.length, (splitMonths month lens n).1 = month + i ∧
      (lens.take i).sum + (splitMonths month lens n).2 = n + 1 ∧
      1 ≤ (splitMonths month lens n).2 ∧ (splitMonths month lens n).2 ≤ lens.getD i 0 := by
  induction lens generalizing month n with
  | nil => simp at h
  | cons len rest ih =>
    rw [List.sum_cons] at h
    unfold splitMonths
    split_ifs with hn
    · exact ⟨0, by simp, rfl, by simp, by simp, by simpa using Nat.succ_le_of_lt hn⟩
    · obtain ⟨i, hi, hmonth, hday, hpos, hle⟩ := ih (month + 1) (show n - len < rest.sum by omega)
      refine ⟨i + 1, by simpa using hi, by omega, ?_, hpos, by simpa using hle⟩
      rw [List.take_succ_cons, List.sum_cons]
      omega

def daysBeforeMonth (leap : Bool) (month : Nat) : Nat :=
  ((monthLengths leap).take (month - 1)).sum

/-- The day by which a leap year delays a month is a day of that year. -/
lemma daysBeforeMonth_le (leap other : Bool) {month : Nat} (h : month ≤ 12) :
    daysBeforeMonth leap month + 365 ≤ daysBeforeMonth other month + (monthLengths leap).sum := by
  revert leap other month
  decide

lemma dayOfYear_lt (n : Int) :
    (n - daysBeforeYear (yearOfDay n)).toNat < (monthLengths (isLeap (yearOfDay n))).sum := by
  obtain ⟨hlow, hhigh⟩ := yearOfDay_spec n
  rw [daysBeforeYear_succ] at hhigh
  omega

/-- Every day has a valid date, which counts the days of the years, the months and the month up to
it. -/
theorem dateOfDay_spec (day : Int) :
    (dateOfDay day).isValid ∧ (dateOfDay day).month ≤ 12 ∧
      day + epochDay + 1 = daysBeforeYear (dateOfDay day).year +
        daysBeforeMonth (isLeap (dateOfDay day).year) (dateOfDay day).month + (dateOfDay day).day := by
  obtain ⟨hlow, -⟩ := yearOfDay_spec (day + epochDay)
  obtain ⟨i, hi, hmonth, hday, hpos, hle⟩ := splitMonths_spec 1 _ (dayOfYear_lt (day + epochDay))
  have hi : i < 12 := hi
  unfold dateOfDay Date.isValid daysBeforeMonth
  simp only [hmonth, Nat.add_sub_cancel_left, Bool.and_eq_true, decide_eq_true_eq]
  exact ⟨⟨⟨by omega, hpos⟩, hle⟩, by omega, by omega⟩

/-- Dates of one month and day in different years are at least 365 days apart. -/
lemma le_sub_of_year_lt {a b : Int} (hyear : (dateOfDay a).year < (dateOfDay b).year)
    (hmonth : (dateOfDay a).month = (dateOfDay b).month)
    (hday : (dateOfDay a).day = (dateOfDay b).day) : 365 ≤ b - a := by
  obtain ⟨-, hbound, ha⟩ := dateOfDay_spec a
  obtain ⟨-, -, hb⟩ := dateOfDay_spec b
  have hyears := daysBeforeYear_le (Int.add_one_le_of_lt hyear)
  rw [daysBeforeYear_succ] at hyears
  have hmonths := daysBeforeMonth_le (isLeap (dateOfDay a).year) (isLeap (dateOfDay b).year) hbound
  rw [← hmonth, ← hday] at hb
  omega

/-- Within less than a year, a month and a day of the month are one day. -/
theorem eq_of_month_day {a b : Int} (hmonth : (dateOfDay a).month = (dateOfDay b).month)
    (hday : (dateOfDay a).day = (dateOfDay b).day) (hab : a - b < 365) (hba : b - a < 365) :
    a = b := by
  obtain hlt | heq | hgt := Int.lt_trichotomy (dateOfDay a).year (dateOfDay b).year
  · have := le_sub_of_year_lt hlt hmonth hday
    omega
  · obtain ⟨-, -, ha⟩ := dateOfDay_spec a
    obtain ⟨-, -, hb⟩ := dateOfDay_spec b
    rw [heq, hmonth, hday] at ha
    omega
  · have := le_sub_of_year_lt hgt hmonth.symm hday.symm
    omega

end TradeCharts.Calendar
