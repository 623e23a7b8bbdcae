import TradeCharts.Proofs.Calendar.Civil
import TradeCharts.Proofs.Label.Range
import TradeCharts.Proofs.Label.Text

/-!
Labels against the calendar: a moment has a label exactly when the minutes that hold it, in universal
time and in the zone, are of the years 1 to 9999, and then the label spells out the minute in the zone.
-/
namespace TradeCharts.Label

open Calendar

variable {m : Minute}

def fullMonthName : Nat → String
  | 1 => "January" | 2 => "February" | 3 => "March" | 4 => "April" | 5 => "May" | 6 => "June"
  | 7 => "July" | 8 => "August" | 9 => "September" | 10 => "October" | 11 => "November"
  | 12 => "December"
  | _ => ""

/-- A month by the first three letters of its name, and a day without padding. -/
def dayText (d : Date) : List Char :=
  (fullMonthName d.month).toList.take 3 ++ ' ' :: Nat.toDigits 10 d.day

/-- The text of a minute: with the clock for windows up to 24 hours, with the full hour for windows
up to 7 days, and the day alone beyond. -/
def minuteText (window : Int) (m : Minute) : List Char :=
  if window ≤ 24 * 3600 then
    dayText m.date ++ ' ' :: digitPair m.hour ++ ':' :: digitPair m.minute
  else if window ≤ 7 * 24 * 3600 then dayText m.date ++ ' ' :: digitPair m.hour ++ [':', '0', '0']
  else dayText m.date

lemma toList_monthName {month : Nat} (hlow : 1 ≤ month) (hhigh : month ≤ 12) :
    (monthName month).toList = (fullMonthName month).toList.take 3 := by
  interval_cases month <;> rfl

theorem toList_render_eq_minuteText (window : Int) (h : Readable m) :
    (render window m).toList = minuteText window m := by
  have hmonth := toList_monthName h.month_pos h.month_le
  have hhour := twoDigits_eq_digitPair (Nat.lt_trans h.hour_lt (by decide))
  have hminute := twoDigits_eq_digitPair (Nat.lt_trans h.minute_lt (by decide))
  have hday : Window.day = 24 * 3600 := rfl
  have hweek : Window.week = 7 * 24 * 3600 := rfl
  unfold render minuteText dayText
  rw [hday, hweek]
  split_ifs <;> simp [toString, hmonth, hhour, hminute]

def IsShown (m : Minute) : Prop :=
  1 ≤ m.date.year ∧ m.date.year ≤ 9999

lemma isShown_minuteOf_iff (seconds : Int) : IsShown (minuteOf seconds) ↔ Shown seconds := by
  rw [IsShown, Shown, ← inRange_year_iff, inRange, Bool.and_eq_true, decide_eq_true_eq,
    decide_eq_true_eq]

/-- With one offset from universal time, a moment has a label exactly when the minutes that hold it
here and there are of the years 1 to 9999, and then the label is the text of the minute there. -/
theorem ofSeconds_fixed_eq_ok_iff (seconds window offset : Int) :
    ∃ here there : Minute,
      (∀ m : Minute, m.Holds seconds ↔ m = here) ∧
      (∀ m : Minute, m.Holds (seconds + offset) ↔ m = there) ∧
      ∀ label : String, ofSeconds seconds window (.fixed offset) = .ok label ↔
        IsShown here ∧ IsShown there ∧ label.toList = minuteText window there := by
  refine ⟨minuteOf seconds, minuteOf (seconds + offset), fun m => holds_iff m seconds,
    fun m => holds_iff m (seconds + offset), fun label => ?_⟩
  rw [ofSeconds_eq_ok, isShown_minuteOf_iff, isShown_minuteOf_iff, ← and_assoc,
    ← toList_render_eq_minuteText window (readable_minuteOf _), String.toList_inj]
  rfl

/-- The year 1900 has no leap day, and the zone is a minute behind. -/
example : ofSeconds (-2203891200) 86400 (.fixed (-60)) = .ok "Feb 28 23:59" := by
  decide +kernel

end TradeCharts.Label
