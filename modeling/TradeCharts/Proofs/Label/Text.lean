import Mathlib.Tactic.Common
import Mathlib.Tactic.IntervalCases
import TradeCharts.Label
import TradeCharts.Proofs.Calendar.Dates

/-! What a label says. Up to a week of window it shows month, day and clock time and nothing else,
and each of them can be read off its text: all parts but the day have a fixed length. -/
namespace TradeCharts.Label

open Calendar

variable {window : Int} {m n : Minute}

lemma length_monthName {month : Nat} (hlow : 1 ≤ month) (hhigh : month ≤ 12) :
    (monthName month).toList.length = 3 := by
  interval_cases month <;> rfl

lemma monthName_inj {a b : Nat} (ha : 1 ≤ a ∧ a ≤ 12) (hb : 1 ≤ b ∧ b ≤ 12)
    (h : monthName a = monthName b) : a = b := by
  have hplace : ∀ month ≤ 12, 1 ≤ month →
      (List.range' 1 12).find? (fun k => monthName k == monthName month) = some month := by
    decide +kernel
  have := hplace a ha.2 ha.1
  rw [h, hplace b hb.2 hb.1] at this
  exact (Option.some.inj this).symm

lemma toList_twoDigits (k : Nat) :
    (twoDigits k).toList = (if k < 10 then ['0'] else []) ++ Nat.toDigits 10 k := by
  unfold twoDigits
  split_ifs <;> simp [toString]

def digitPair (k : Nat) : List Char :=
  [Nat.digitChar (k / 10), Nat.digitChar (k % 10)]

lemma twoDigits_eq_digitPair {k : Nat} (h : k < 100) : (twoDigits k).toList = digitPair k := by
  rw [toList_twoDigits, digitPair]
  split_ifs with hk
  · rw [Nat.toDigits_of_lt_base hk, Nat.div_eq_of_lt hk, Nat.mod_eq_of_lt hk]
    rfl
  · rw [Nat.toDigits_eq_if (by decide), if_neg hk, Nat.toDigits_of_lt_base (by omega)]
    rfl

lemma length_twoDigits {k : Nat} (h : k < 100) : (twoDigits k).toList.length = 2 := by
  rw [twoDigits_eq_digitPair h]
  rfl

/-- The number is read back from its digits. -/
lemma twoDigits_inj {a b : Nat} (h : (twoDigits a).toList = (twoDigits b).toList) : a = b := by
  have hvalue (k : Nat) : Nat.ofDigitChars 10 (twoDigits k).toList 0 = k := by
    rw [toList_twoDigits]
    split_ifs <;> simp [Nat.ofDigitChars_cons]
  rw [← hvalue a, h, hvalue b]

lemma toDigits_inj {a b : Nat} (h : Nat.toDigits 10 a = Nat.toDigits 10 b) : a = b := by
  have hvalue := congrArg (Nat.ofDigitChars 10 · 0) h
  simpa using hvalue

/-- The minute that a label shows: full hours only once the window is longer than a day. -/
def shownMinute (window : Int) (m : Minute) : Nat :=
  if window ≤ Window.day then m.minute else 0

def clock (window : Int) (m : Minute) : List Char :=
  ' ' :: (twoDigits m.hour).toList ++ ':' :: (twoDigits (shownMinute window m)).toList

lemma toList_render (h : window ≤ Window.week) (m : Minute) :
    (render window m).toList =
      (monthName m.date.month).toList ++ (' ' :: Nat.toDigits 10 m.date.day ++ clock window m) := by
  have hzero : (twoDigits 0).toList = ['0', '0'] := rfl
  unfold render clock shownMinute
  split_ifs <;> simp [toString, hzero]

structure Readable (m : Minute) : Prop where
  month_pos : 1 ≤ m.date.month
  month_le : m.date.month ≤ 12
  hour_lt : m.hour < 24
  minute_lt : m.minute < 60

lemma readable_minuteOf (seconds : Int) : Readable (minuteOf seconds) := by
  obtain ⟨hvalid, hmonth, -⟩ := dateOfDay_spec (seconds / daySeconds)
  simp only [Date.isValid, Bool.and_eq_true, decide_eq_true_eq] at hvalid
  have hlt := Int.emod_lt_of_pos seconds (show 0 < daySeconds by decide)
  unfold daySeconds at hlt
  exact ⟨hvalid.1.1, hmonth, by simp only [minuteOf, daySeconds]; omega, Nat.mod_lt _ (by decide)⟩

lemma length_hour (h : Readable m) : (twoDigits m.hour).toList.length = 2 :=
  length_twoDigits (Nat.lt_trans h.hour_lt (by decide))

lemma length_clock (window : Int) (h : Readable m) : (clock window m).length = 6 := by
  have hminute : shownMinute window m < 100 := by
    have := h.minute_lt
    unfold shownMinute
    split_ifs <;> omega
  simp [clock, length_hour h, length_twoDigits hminute]

structure Alike (window : Int) (m n : Minute) : Prop where
  month : m.date.month = n.date.month
  day : m.date.day = n.date.day
  hour : m.hour = n.hour
  minute : shownMinute window m = shownMinute window n

lemma clock_inj (hm : Readable m) (hn : Readable n) (h : clock window m = clock window n) :
    m.hour = n.hour ∧ shownMinute window m = shownMinute window n := by
  have hlength := length_hour hm
  rw [← length_hour hn] at hlength
  obtain ⟨hhour, hminute⟩ := List.append_inj (List.cons.inj h).2 hlength
  exact ⟨twoDigits_inj hhour, twoDigits_inj (List.cons.inj hminute).2⟩

theorem render_eq_iff (hw : window ≤ Window.week) (hm : Readable m) (hn : Readable n) :
    render window m = render window n ↔ Alike window m n := by
  rw [← String.toList_inj, toList_render hw, toList_render hw]
  constructor
  · intro h
    have hlength := length_monthName hm.month_pos hm.month_le
    rw [← length_monthName hn.month_pos hn.month_le] at hlength
    obtain ⟨hmonth, hrest⟩ := List.append_inj h hlength
    have hclock := length_clock window hm
    rw [← length_clock window hn] at hclock
    obtain ⟨hday, hrest⟩ := List.append_inj' hrest hclock
    obtain ⟨hhour, hminute⟩ := clock_inj hm hn hrest
    exact ⟨monthName_inj ⟨hm.month_pos, hm.month_le⟩ ⟨hn.month_pos, hn.month_le⟩
      (String.toList_inj.1 hmonth), toDigits_inj (List.cons.inj hday).2, hhour, hminute⟩
  · intro h
    unfold clock
    rw [h.month, h.day, h.hour, h.minute]

end TradeCharts.Label
