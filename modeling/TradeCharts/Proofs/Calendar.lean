import Mathlib.Tactic.Common
import TradeCharts.Calendar

/-! The year of a moment. A year begins with its first day, so the years that labels can show are
those of one interval of seconds. -/
namespace TradeCharts.Calendar

lemma daysBeforeYear_eq (y : Int) :
    daysBeforeYear y = 365 * (y - 1) + (y - 1) / 4 - (y - 1) / 100 + (y - 1) / 400 := rfl

lemma daysBeforeYear_le {y z : Int} (h : y ≤ z) : daysBeforeYear y ≤ daysBeforeYear z := by
  rw [daysBeforeYear_eq, daysBeforeYear_eq]
  omega

lemma yearOfDay_spec (n : Int) :
    daysBeforeYear (yearOfDay n) ≤ n ∧ n < daysBeforeYear (yearOfDay n + 1) := by
  -- the guess is the year itself or one beside it
  have hlow : daysBeforeYear (400 * n / 146097 + 1 - 1) ≤ n := by
    rw [daysBeforeYear_eq]
    omega
  have hhigh : n < daysBeforeYear (400 * n / 146097 + 1 + 1 + 1) := by
    rw [daysBeforeYear_eq]
    omega
  unfold yearOfDay
  simp only
  split_ifs with h1 h2
  · rw [Int.sub_add_cancel]
    exact ⟨hlow, h1⟩
  · exact ⟨h2, hhigh⟩
  · exact ⟨Int.not_lt.1 h1, Int.not_le.1 h2⟩

theorem le_yearOfDay_iff (n y : Int) : y ≤ yearOfDay n ↔ daysBeforeYear y ≤ n := by
  obtain ⟨hlow, hhigh⟩ := yearOfDay_spec n
  constructor
  · intro h
    have := daysBeforeYear_le h
    omega
  · intro h
    by_contra hlt
    have := daysBeforeYear_le (show yearOfDay n + 1 ≤ y by omega)
    omega

def firstSecond : Int := -62135596800

def lastSecond : Int := 253402300799

theorem inRange_year_iff (seconds : Int) :
    inRange (minuteOf seconds).date.year ↔ firstSecond ≤ seconds ∧ seconds ≤ lastSecond := by
  have hfirst := le_yearOfDay_iff (seconds / daySeconds + epochDay) 1
  have hlast := le_yearOfDay_iff (seconds / daySeconds + epochDay) 10000
  rw [show daysBeforeYear 1 = 0 from rfl] at hfirst
  rw [show daysBeforeYear 10000 = 3652059 from rfl] at hlast
  have hyear : (minuteOf seconds).date.year = yearOfDay (seconds / daySeconds + epochDay) := rfl
  rw [hyear, inRange, Bool.and_eq_true, decide_eq_true_eq, decide_eq_true_eq]
  unfold daySeconds epochDay at *
  unfold firstSecond lastSecond
  omega

end TradeCharts.Calendar
