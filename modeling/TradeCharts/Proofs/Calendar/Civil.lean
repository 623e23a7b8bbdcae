import TradeCharts.Proofs.Calendar.Dates

/-!
Minutes of the calendar as they are counted: the years since 1970 day by day, the months of the year
before, the days of the month before and the clock. Every second lies in exactly one valid minute,
and that is the minute which is computed from it (`holds_iff`).
-/
namespace TradeCharts.Calendar

def yearLength (y : Int) : Nat :=
  if isLeap y then 366 else 365

def daysFromYear (y : Int) (years : Nat) : Nat :=
  ((List.range years).map fun k : Nat => yearLength (y + k)).sum

/-- The number of days from the first day of 1970 to the first day of a year, negative for a year
before. -/
def daysToYear (y : Int) : Int :=
  daysFromYear 1970 (y - 1970).toNat - daysFromYear y (1970 - y).toNat

def Date.toDays (d : Date) : Int :=
  daysToYear d.year + daysBeforeMonth (isLeap d.year) d.month + d.day - 1

/-- The number of seconds from 1970-01-01 00:00 to the first second of a minute. -/
def Minute.start (m : Minute) : Int :=
  86400 * m.date.toDays + 3600 * m.hour + 60 * m.minute

structure Minute.Holds (m : Minute) (seconds : Int) : Prop where
  date : m.date.isValid
  hour : m.hour < 24
  minute : m.minute < 60
  after : m.start ≤ seconds
  before : seconds < m.start + 60

lemma yearLength_eq (y : Int) :
    (yearLength y : Int) = daysBeforeYear (y + 1) - daysBeforeYear y := by
  have hmonths : yearLength y = (monthLengths (isLeap y)).sum := by
    unfold yearLength
    cases isLeap y <;> rfl
  rw [daysBeforeYear_succ, hmonths]
  omega

lemma daysFromYear_eq (y : Int) (years : Nat) :
    (daysFromYear y years : Int) = daysBeforeYear (y + years) - daysBeforeYear y := by
  induction years with
  | zero => simp [daysFromYear]
  | succ years ih =>
    have hsucc : daysFromYear y (years + 1) = daysFromYear y years + yearLength (y + years) := by
      simp [daysFromYear, List.range_succ]
    have hlast := yearLength_eq (y + years)
    rw [hsucc, Int.natCast_add, ih, hlast, Int.natCast_succ, Int.add_assoc]
    omega

/-- Counted year by year or by the rule for leap years, the days to a year are the same. -/
theorem daysToYear_eq (y : Int) : daysToYear y = daysBeforeYear y - epochDay := by
  have hepoch : daysBeforeYear 1970 = epochDay := rfl
  rw [daysToYear, daysFromYear_eq, daysFromYear_eq, ← hepoch]
  rcases Int.le_total 1970 y with h | h
  · have hafter : 1970 + ((y - 1970).toNat : Int) = y := by omega
    have hbefore : y + ((1970 - y).toNat : Int) = y := by omega
    rw [hafter, hbefore]
    omega
  · have hafter : 1970 + ((y - 1970).toNat : Int) = 1970 := by omega
    have hbefore : y + ((1970 - y).toNat : Int) = 1970 := by omega
    rw [hafter, hbefore]
    omega

lemma toDays_dateOfDay (day : Int) : (dateOfDay day).toDays = day := by
  obtain ⟨-, -, hday⟩ := dateOfDay_spec day
  rw [Date.toDays, daysToYear_eq]
  omega

/-- The days of the months before a month are passed over. -/
lemma splitMonths_take (month : Nat) {lens : List Nat} {i k : Nat} (h : k < lens.getD i 0) :
    splitMonths month lens ((lens.take i).sum + k) = (month + i, k + 1) := by
  induction lens generalizing month i with
  | nil => simp at h
  | cons len rest ih =>
    unfold splitMonths
    cases i with
    | zero =>
      have hk : k < len := by simpa using h
      simp [hk]
    | succ i =>
      have hsum : ((len :: rest).take (i + 1)).sum + k = len + ((rest.take i).sum + k) := by
        rw [List.take_succ_cons, List.sum_cons]
        omega
      rw [hsum, if_neg (by omega), Nat.add_sub_cancel_left, ih (month + 1) (by simpa using h)]
      simp only [Prod.mk.injEq, and_true]
      omega

lemma take_sum_add_lt {lens : List Nat} {i k : Nat} (h : k < lens.getD i 0) :
    (lens.take i).sum + k < lens.sum := by
  induction lens generalizing i with
  | nil => simp at h
  | cons len rest ih =>
    cases i with
    | zero =>
      have hk : k < len := by simpa using h
      rw [List.take_zero, List.sum_nil, List.sum_cons]
      omega
    | succ i =>
      have hrest := ih (i := i) (by simpa using h)
      rw [List.take_succ_cons, List.sum_cons, List.sum_cons]
      omega

/-- A valid date is the one that is computed from its day. -/
theorem dateOfDay_toDays {d : Date} (h : d.isValid) : dateOfDay d.toDays = d := by
  obtain ⟨y, m, k⟩ := d
  simp only [Date.isValid, Bool.and_eq_true, decide_eq_true_eq] at h
  obtain ⟨⟨hm, hk⟩, hlength⟩ := h
  -- the place of the day in its year
  have hplace : k - 1 < (monthLengths (isLeap y)).getD (m - 1) 0 := by omega
  have hday : Date.toDays ⟨y, m, k⟩ + epochDay - daysBeforeYear y =
      (daysBeforeMonth (isLeap y) m + (k - 1) : Nat) := by
    rw [Date.toDays, daysToYear_eq]
    push_cast [hk]
    omega
  have hwithin : daysBeforeMonth (isLeap y) m + (k - 1) < (monthLengths (isLeap y)).sum :=
    take_sum_add_lt hplace
  have hyear : yearOfDay (Date.toDays ⟨y, m, k⟩ + epochDay) = y := by
    have hlow := (le_yearOfDay_iff (Date.toDays ⟨y, m, k⟩ + epochDay) y).2 (by omega)
    have hhigh := mt (le_yearOfDay_iff (Date.toDays ⟨y, m, k⟩ + epochDay) (y + 1)).1
      (by rw [daysBeforeYear_succ]; omega)
    omega
  have hsplit : splitMonths 1 (monthLengths (isLeap y)) (daysBeforeMonth (isLeap y) m + (k - 1)) =
      (1 + (m - 1), k - 1 + 1) := splitMonths_take 1 hplace
  unfold dateOfDay
  simp only [hyear]
  rw [hday, Int.toNat_natCast, hsplit, Nat.add_sub_cancel' hm,
    Nat.sub_add_cancel hk]

/-- Every second lies in exactly one valid minute, the one that is computed from it. -/
theorem holds_iff (m : Minute) (seconds : Int) : m.Holds seconds ↔ m = minuteOf seconds := by
  constructor
  · intro h
    obtain ⟨hdate, hhour, hminute, hafter, hbefore⟩ := h
    unfold Minute.start at hafter hbefore
    have hday : seconds / daySeconds = m.date.toDays := by
      unfold daySeconds
      omega
    have hsecond : (seconds % daySeconds).toNat / 60 = 60 * m.hour + m.minute := by
      unfold daySeconds
      omega
    obtain ⟨date, hour, minute⟩ := m
    simp only [minuteOf, hday, dateOfDay_toDays hdate, Minute.mk.injEq, true_and] at *
    omega
  · rintro rfl
    obtain ⟨hvalid, -, -⟩ := dateOfDay_spec (seconds / daySeconds)
    have hdays := toDays_dateOfDay (seconds / daySeconds)
    have hlt := Int.emod_lt_of_pos seconds (show 0 < daySeconds by decide)
    have hstart : (minuteOf seconds).start = 86400 * (seconds / daySeconds) +
        3600 * ((seconds % daySeconds).toNat / 3600 : Nat) +
          60 * ((seconds % daySeconds).toNat / 60 % 60 : Nat) := by
      rw [Minute.start, minuteOf, hdays]
    unfold daySeconds at *
    exact ⟨hvalid, by simp only [minuteOf, daySeconds]; omega, Nat.mod_lt _ (by decide), by omega,
      by omega⟩

end TradeCharts.Calendar
